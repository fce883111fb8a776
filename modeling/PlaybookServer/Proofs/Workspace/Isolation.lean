/-
Module: PlaybookServer.Proofs.Workspace.Isolation
Purpose: A folder that asks for a container environment runs nothing on the host but what looks for a container engine.
  Over its whole use, every other command is one of the engine that was found last. Once the environment could not be
  set up, nothing is run at all until its settings change, and every run of a tool fails for want of it.
Main exports: Sealed, KeepsSealed, Confined, Confined.bind, Operation, Usage, commands_stay_in_container
-/
import PlaybookServer.Proofs.Container.Isolation
import PlaybookServer.Proofs.Workspace.Freshness
import PlaybookServer.Proofs.Workspace.Validation

namespace PlaybookServer.Workspace

open Effect Tool Container Docs Lint

/-! ### What an operation keeps to -/

/-- A folder asks for a container environment. All that was said keeps to the engines, and an environment that is kept
    is one of the engine that was found last. -/
structure Sealed (log : List Exchange) (c : Context) : Prop where
  isolated : Isolated log
  enabled : c.settings.environment.enabled = true
  idle : c.environment.isBuilding = false
  engine : ∀ e, c.environment.value?.join = some e → detected? log = some e.engine

/-- What happens to a folder leaves it sealed. An environment that is kept stays, and so does its lack; commands are
    those of its engine. -/
structure KeepsSealed (log : List Exchange) (c : Context) (said : List Exchange) (c' : Context) : Prop where
  isSealed : Sealed (log ++ said) c'
  stays : ∀ v, c.environment.value? = some v → c'.environment.value? = some v ∧ ∀ x ∈ said, InContainer v x

section KeepsSealed

variable {log said said' : List Exchange} {c c' c'' c₀ c₁ : Context}

theorem Sealed.elsewhere (h : Sealed log c) (hsettings : c'.settings = c.settings)
    (henvironment : c'.environment = c.environment) : Sealed log c' where
  isolated := h.isolated
  enabled := by rw [hsettings, h.enabled]
  idle := by rw [henvironment, h.idle]
  engine := by
    rw [henvironment]
    exact h.engine

theorem KeepsSealed.elsewhere (h : KeepsSealed log c said c') (hbefore : c₀.environment = c.environment)
    (hsettings : c₁.settings = c'.settings) (henvironment : c₁.environment = c'.environment) :
    KeepsSealed log c₀ said c₁ where
  isSealed := h.isSealed.elsewhere hsettings henvironment
  stays := by
    rw [hbefore, henvironment]
    exact h.stays

theorem KeepsSealed.trans (h : KeepsSealed log c said c') (h' : KeepsSealed (log ++ said) c' said' c'') :
    KeepsSealed log c (said ++ said') c'' where
  isSealed := by
    rw [← List.append_assoc]
    exact h'.isSealed
  stays v hv := by
    obtain ⟨hv', hsaid⟩ := h.stays v hv
    obtain ⟨hv'', hsaid'⟩ := h'.stays v hv'
    exact ⟨hv'', List.forall_mem_append.2 ⟨hsaid, hsaid'⟩⟩

/-- What is said in the environment that is kept, if there is one. -/
theorem Sealed.goesOn (h : Sealed log c) (hsaid : ∀ x ∈ said, InContainer c.environment.value?.join x) :
    KeepsSealed log c said c where
  isSealed :=
    { isolated := h.isolated.append h.engine hsaid
      enabled := h.enabled
      idle := h.idle
      engine := by
        intro e he
        rw [detected?_append, detected?_of_inContainer hsaid, Option.none_or]
        exact h.engine e he }
  stays v hv := by
    rw [hv] at hsaid
    exact ⟨hv, hsaid⟩

theorem Sealed.quiet (h : Sealed log c) : KeepsSealed log c [] c := h.goesOn (List.forall_mem_nil _)

end KeepsSealed

/-! ### Programs that keep to it -/

section Confined

variable {α β : Type} {c : Context}

/-- A program of a folder comes to its end wherever the folder is sealed, keeps it so, and ends as promised. -/
def Confined (p : Program Context α) (promised : α → Context → Prop) (c : Context) : Prop :=
  ∀ log, Sealed log c → p.Completes (fun said v c' => KeepsSealed log c said c' ∧ promised v c') c

theorem Confined.mono {promised promised' : α → Context → Prop} {p : Program Context α} (hp : Confined p promised c)
    (himp : ∀ v c', promised v c' → promised' v c') : Confined p promised' c :=
  fun log hlog => (hp log hlog).mono fun _ v c' h => ⟨h.1, himp v c' h.2⟩

/-- A sequence: the first part promises that the second can be started. -/
theorem Confined.bind {between : α → Context → Prop} {promised : β → Context → Prop} {p : Program Context α}
    {f : α → Program Context β} (hp : Confined p between c) (hf : ∀ v c', between v c' → Confined (f v) promised c') :
    Confined (p >>= f) promised c := by
  intro log hlog
  refine (hp log hlog).bind ?_
  rintro said v c' ⟨hkeeps, hv⟩
  refine (hf v c' hv (log ++ said) hkeeps.isSealed).mono ?_
  rintro said' u c'' ⟨hkeeps', hu⟩
  exact ⟨hkeeps.trans hkeeps', hu⟩

theorem confined_pure {v : α} {promised : α → Context → Prop} (h : promised v c) :
    Confined (pure v) promised c :=
  fun _ hlog => ⟨hlog.quiet, h⟩

theorem confined_look (f : Context → α) : Confined (look f) (fun v c' => v = f c ∧ c' = c) c :=
  fun _ hlog => ⟨hlog.quiet, rfl, rfl⟩

/-- A change that leaves the settings and the environment alone. -/
theorem confined_changing {f : Context → α × Context} (hsettings : (f c).2.settings = c.settings)
    (henvironment : (f c).2.environment = c.environment) :
    Confined (changing f) (fun v c' => v = (f c).1 ∧ c' = (f c).2) c :=
  fun _ hlog => ⟨hlog.quiet.elsewhere rfl hsettings henvironment, rfl, rfl⟩

theorem confined_change {f : Context → Context} (hsettings : (f c).settings = c.settings)
    (henvironment : (f c).environment = c.environment) : Confined (change f) (fun _ c' => c' = f c) c :=
  fun _ hlog => ⟨hlog.quiet.elsewhere rfl hsettings henvironment, rfl⟩

/-- What runs commands only in the environment that is kept. -/
theorem confined_inContainer {environment : Option Environment} {p : Program Context α}
    (hp : p.Says (InContainer environment)) (hkept : c.environment.value?.join = environment) :
    Confined p (fun _ c' => c' = c) c := by
  intro log hlog
  subst hkept
  refine (Program.Converses.completes hp c).mono ?_
  rintro said v c' ⟨hsaid, rfl⟩
  exact ⟨hlog.goesOn hsaid, rfl⟩

theorem confined_tell {q : Query} (h : ∀ answer, Exchange.commandLine? ⟨q, answer⟩ = none) :
    Confined (ask q) (fun _ c' => c' = c) c :=
  confined_inContainer (says_other h) rfl

end Confined

/-! ### The environment and the runner -/

/-- The tools' paths and the library stay as they are. -/
structure Apart (c c' : Context) : Prop where
  paths : c'.paths = c.paths
  library : c'.library = c.library

theorem Apart.refl (c : Context) : Apart c c := ⟨rfl, rfl⟩

theorem Apart.trans {c c' c'' : Context} (h : Apart c c') (h' : Apart c' c'') : Apart c c'' :=
  ⟨h'.paths.trans h.paths, h'.library.trans h.library⟩

theorem isolated_setUpEnvironment {log : List Exchange} (h : Isolated log) (settings : Settings) :
    (setUpEnvironment settings).Converses fun said v =>
      Isolated (log ++ said) ∧ ∀ e, v = some e → detected? (log ++ said) = some e.engine := by
  refine (converses_look _).bind ?_
  rintro _ place rfl
  refine (isolated_setUp h settings.environment place.1 place.2).bind ?_
  rintro said result ⟨hsaid, hresult⟩
  split
  next e =>
      refine ⟨by rwa [List.nil_append, List.append_nil], ?_⟩
      rintro _ ⟨⟩
      rw [List.nil_append, List.append_nil]
      exact hresult e rfl
  next f =>
      intro _
      have htold := hsaid.tell
        (x := ⟨.showError (f.text ++ ". The execution environment is disabled for this session."), ()⟩) rfl
      rw [List.append_assoc] at htold
      refine ⟨htold, ?_⟩
      rintro _ ⟨⟩

/-- The environment is kept as it was, or it is set up and kept. -/
theorem confined_executionEnvironment (c : Context) :
    Confined executionEnvironment (fun v c' => c'.environment.value? = some v ∧ Apart c c') c := by
  intro log hlog
  have hpart (c : Context) :
      Program.PartOf (fun c : Context => c.environment) (fun d c => { c with environment := d }) c :=
    ⟨fun _ => rfl, fun _ _ => rfl, rfl⟩
  refine (completes_look _ c).bind ?_
  rintro said settings c ⟨rfl, rfl, rfl⟩
  rw [hlog.enabled]
  have hhad : (getOrBuild (fun c : Context => c.environment) (fun d c => { c with environment := d })
      (setUpEnvironment c.settings)).Completes (fun said v c' => ((∃ d, c' = { c with environment := d }) ∧
        Isolated (log ++ said) ∧ (∀ e, v = some e → detected? (log ++ said) = some e.engine) ∧
        ∀ kept, c.environment.value? = some kept → v = kept ∧ said = []) ∧
          c'.environment.isBuilding = false ∧ c'.environment.value? = some v) c := by
    apply completes_getOrBuild_of hpart hlog.idle
    · intro v hv
      refine ⟨⟨_, rfl⟩, by rw [List.append_nil]; exact hlog.isolated, ?_, ?_⟩
      · rintro e rfl
        rw [List.append_nil]
        apply hlog.engine
        rw [hv]
        rfl
      · intro kept hthere
        exact ⟨Option.some.inj (hv.symm.trans hthere), rfl⟩
    · intro hnone d
      refine ((isolated_setUpEnvironment hlog.isolated c.settings).completes _).mono ?_
      rintro said v _ ⟨⟨hisolated, hengine⟩, rfl⟩
      refine ⟨rfl, fun d' => ⟨⟨d', rfl⟩, hisolated, hengine, ?_⟩⟩
      intro kept hthere
      exact absurd (hnone.symm.trans hthere) nofun
  refine hhad.mono ?_
  rintro said v _ ⟨⟨⟨d, rfl⟩, hisolated, hengine, hkept⟩, hidle, hv⟩
  refine ⟨⟨⟨hisolated, hlog.enabled, hidle, ?_⟩, ?_⟩, hv, ⟨rfl, rfl⟩⟩
  · intro e he
    rw [hv] at he
    exact hengine e he
  · intro kept hthere
    obtain ⟨rfl, rfl⟩ := hkept kept hthere
    exact ⟨hv, List.forall_mem_nil _⟩

/-- A runner runs its commands in the environment that a folder keeps, or not at all. -/
structure Using (r : Runner) (c : Context) : Prop where
  uses : r.usesEnvironment = true
  environment : c.environment.value? = some r.environment

theorem Using.kept {r : Runner} {c : Context} (h : Using r c) : c.environment.value?.join = r.environment := by
  rw [h.environment]
  rfl

theorem confined_runner (c : Context) : Confined runner (fun r c' => Using r c' ∧ Apart c c') c := by
  intro log hlog
  refine (confined_executionEnvironment c log hlog).bind ?_
  rintro said v c' ⟨hkeeps, hv, hapart⟩
  rw [← List.append_nil said] at hkeeps
  exact ⟨hkeeps, ⟨hkeeps.isSealed.enabled, hv⟩, hapart⟩

/-! ### Validation -/

theorem confined_runLint {r : Runner} {c : Context} (hr : Using r c) (settings : LintSettings) (doc : Url) :
    Confined (runLint r settings doc) (fun _ c' => Apart c c') c := by
  intro log hlog
  refine (completes_runLint r settings doc c).mono ?_
  rintro said v _ ⟨hlinted, l, rfl⟩
  have hsaid := hlinted.stays hr.uses
  rw [← hr.kept] at hsaid
  exact ⟨(hlog.goesOn hsaid).elsewhere rfl rfl rfl, rfl, rfl⟩

theorem completes_runLint_unavailable {r : Runner} (huses : r.usesEnvironment = true) (hnone : r.environment = none)
    (settings : LintSettings) (doc : Url) (c : Context) : (runLint r settings doc).Completes
      (fun said v _ => commandLines said = [] ∧ v = .error (.exec .environmentUnavailable)) c := by
  have hpart : Program.PartOf (fun c : Context => c.lint) (fun l c => { c with lint := l }) c :=
    ⟨fun _ => rfl, fun _ _ => rfl, rfl⟩
  refine (Program.Completes.zoom hpart (completes_lint_unavailable huses hnone settings doc c.lint)).mono ?_
  rintro said v c' ⟨l, -, hfails⟩
  exact hfails

theorem confined_checkPlaybook {r : Runner} {c : Context} (hr : Using r c) (doc : Url) (text : String) :
    Confined (checkPlaybook r doc text) (fun _ c' => c' = c) c := by
  unfold checkPlaybook
  split
  next => exact confined_pure rfl
  next =>
      refine (confined_inContainer (says_syntaxCheck hr.uses doc) hr.kept).bind ?_
      rintro checked c' rfl
      split <;> exact confined_pure rfl

theorem confined_reportMissing (tool : String) (c : Context) :
    Confined (reportMissing tool) (fun _ c' => Apart c c') c := by
  refine (confined_changing rfl rfl).bind ?_
  rintro shown _ ⟨rfl, rfl⟩
  split
  next => exact confined_pure ⟨rfl, rfl⟩
  next =>
      refine (confined_tell fun _ => rfl).mono ?_
      rintro _ _ rfl
      exact ⟨rfl, rfl⟩

theorem confined_fullPass (doc : Url) (text : String) (c : Context) :
    Confined (fullPass doc text) (fun _ c' => Apart c c') c := by
  refine (confined_look _).bind ?_
  rintro settings c ⟨rfl, rfl⟩
  refine (confined_runner c).bind ?_
  rintro r c₁ ⟨hr, hapart⟩
  split
  next =>
      refine (confined_checkPlaybook hr doc text).mono ?_
      rintro _ _ rfl
      exact hapart
  next =>
      refine (confined_inContainer (says_runner_locate hr.uses _) hr.kept).bind ?_
      rintro place _ rfl
      split
      next =>
          refine (confined_reportMissing _ _).bind ?_
          intro _ c₂ hapart'
          exact confined_pure (hapart.trans hapart')
      next =>
          refine (confined_runLint hr _ doc).bind ?_
          intro v c₂ hapart'
          split
          next => exact confined_pure (hapart.trans hapart')
          next =>
              refine (confined_tell fun _ => rfl).bind ?_
              rintro _ _ rfl
              exact confined_pure (hapart.trans hapart')

/-! ### The tools' paths and the library -/

theorem confined_findToolPaths (c : Context) : Confined findToolPaths (fun _ c' => Apart c c') c := by
  refine (confined_runner c).bind ?_
  rintro r c₁ ⟨hr, hapart⟩
  refine (confined_inContainer (says_discoverPaths hr.uses) hr.kept).bind ?_
  rintro paths c₁ rfl
  refine (confined_executionEnvironment c₁).bind ?_
  rintro v c₂ ⟨hv, hapart'⟩
  have hapart := hapart.trans hapart'
  split
  next => exact confined_pure hapart
  next e =>
      refine (confined_inContainer (says_fetchPluginDocs e paths) (by rw [hv]; rfl)).bind ?_
      rintro fetched _ rfl
      split
      next => exact confined_pure hapart
      next =>
          refine (confined_tell fun _ => rfl).bind ?_
          rintro _ _ rfl
          exact confined_pure hapart

/-- A value other than the environment is kept as it was, or it is built and kept. -/
theorem confined_getOrBuild {α : Type} {get : Context → Deferred α} {put : Deferred α → Context → Context}
    {build : Program Context α} {beside : Context → Prop} {c : Context} (hpart : ∀ c, Program.PartOf get put c)
    (hidle : (get c).isBuilding = false) (hsettings : ∀ d c, (put d c).settings = c.settings)
    (henvironment : ∀ d c, (put d c).environment = c.environment) (hbeside : ∀ d c, beside c → beside (put d c))
    (hc : beside c) (hbuild : ∀ c, beside c → Confined build (fun _ c' => get c' = get c ∧ beside c') c) :
    Confined (getOrBuild get put build) (fun _ c' => (get c').isBuilding = false ∧ beside c') c := by
  intro log hlog
  have hhad : (getOrBuild get put build).Completes (fun said v c' =>
      (KeepsSealed log c said c' ∧ beside c') ∧ (get c').isBuilding = false ∧ (get c').value? = some v) c := by
    apply completes_getOrBuild_of hpart hidle
    · intro v _
      exact ⟨hlog.quiet, hc⟩
    · intro _ d
      refine (hbuild (put d c) (hbeside d c hc) log (hlog.elsewhere (hsettings d c) (henvironment d c))).mono ?_
      rintro said v c' ⟨hkeeps, hget, hc'⟩
      refine ⟨by rw [hget, (hpart c).get_put], fun d' => ⟨?_, hbeside d' c' hc'⟩⟩
      exact hkeeps.elsewhere (henvironment d c).symm (hsettings d' c') (henvironment d' c')
  refine hhad.mono ?_
  rintro said v c' ⟨⟨hkeeps, hc'⟩, hidle', -⟩
  exact ⟨hkeeps, hidle', hc'⟩

/-- Nobody looks for the tools' paths or scans for modules. -/
structure Context.AtRest (c : Context) : Prop where
  paths : c.paths.isBuilding = false
  library : c.library.isBuilding = false

theorem Apart.atRest {c c' : Context} (h : Apart c c') (hc : c.AtRest) : c'.AtRest :=
  ⟨by rw [h.paths, hc.paths], by rw [h.library, hc.library]⟩

theorem confined_toolPaths {c : Context} (hidle : c.paths.isBuilding = false) (l : Deferred Library)
    (hlibrary : c.library = l) :
    Confined toolPaths (fun _ c' => c'.paths.isBuilding = false ∧ c'.library = l) c := by
  refine confined_getOrBuild (fun _ => ⟨fun _ => rfl, fun _ _ => rfl, rfl⟩) hidle (fun _ _ => rfl) (fun _ _ => rfl)
    (fun _ _ h => h) hlibrary ?_
  rintro c rfl
  exact (confined_findToolPaths c).mono fun _ c' hapart => ⟨hapart.paths, hapart.library⟩

theorem confined_library {c : Context} (hc : c.AtRest) : Confined library (fun _ c' => c'.AtRest) c := by
  have hbuild (c : Context) (hidle : c.paths.isBuilding = false) :
      Confined buildLibrary (fun _ c' => c'.library = c.library ∧ c'.paths.isBuilding = false) c := by
    refine (confined_toolPaths hidle c.library rfl).bind ?_
    rintro paths c₁ ⟨hidle', hlibrary⟩
    refine (confined_tell fun _ => rfl).bind ?_
    rintro fs _ rfl
    exact confined_pure ⟨hlibrary, hidle'⟩
  have hhad : Confined library (fun _ c' => c'.library.isBuilding = false ∧ c'.paths.isBuilding = false) c :=
    confined_getOrBuild (fun _ => ⟨fun _ => rfl, fun _ _ => rfl, rfl⟩) hc.library (fun _ _ => rfl) (fun _ _ => rfl)
      (fun _ _ h => h) hc.paths hbuild
  exact hhad.mono fun _ c' h => ⟨h.2, h.1⟩

/-! ### Completion -/

theorem confined_roleCollections (doc : Url) (c : Context) :
    Confined (Context.roleCollections doc) (fun _ c' => Apart c c') c := by
  refine (confined_tell fun _ => rfl).bind ?_
  rintro fs _ rfl
  refine (confined_changing rfl rfl).mono ?_
  rintro _ _ ⟨-, rfl⟩
  exact ⟨rfl, rfl⟩

theorem isBuilding_modify {α : Type} (d : Deferred α) (f : α → α) : (d.modify f).isBuilding = d.isBuilding := by
  cases hphase : d.phase <;> simp [Deferred.modify, Deferred.isBuilding, hphase]

theorem confined_rememberModules {c : Context} (hc : c.AtRest) (names : List String) :
    Confined (rememberModules names) (fun _ c' => c'.AtRest) c := by
  refine (confined_tell fun _ => rfl).bind ?_
  rintro fs _ rfl
  refine (confined_change rfl rfl).mono ?_
  rintro _ _ rfl
  exact ⟨hc.paths, by rw [isBuilding_modify, hc.library]⟩

theorem confined_completionRequest {c : Context} (hc : c.AtRest) (uri : Url) (text : String) (position : Text.Point) :
    Confined (completionRequest uri text position) (fun _ c' => c'.AtRest) c := by
  refine (confined_library hc).bind ?_
  intro l c₁ hc₁
  refine (confined_look _).bind ?_
  rintro settings c₁ ⟨rfl, rfl⟩
  refine (confined_roleCollections uri c₁).bind ?_
  intro roles c₂ hapart
  refine (confined_tell fun _ => rfl).bind ?_
  rintro fs _ rfl
  exact confined_pure (hapart.atRest hc₁)

theorem confined_moduleDocumentation {c : Context} (hc : c.AtRest) (name : String) :
    Confined (moduleDocumentation name) (fun _ c' => c'.AtRest) c := by
  refine (confined_library hc).bind ?_
  intro l c₁ hc₁
  refine (confined_tell fun _ => rfl).bind ?_
  rintro fs _ rfl
  refine (confined_rememberModules hc₁ _).bind ?_
  intro _ c₂ hc₂
  exact confined_pure hc₂

/-! ### Histories -/

/-- What is asked of a folder. -/
inductive Operation where
  | validate (doc : Url) (text : String) (quick : Bool)
  | lint (settings : LintSettings) (doc : Url)
  | checkSyntax (doc : Url)
  | runTool (executable args : String) (mounts : List String)
  | findTool (executable : String)
  | environment
  | toolPaths
  | library
  | complete (uri : Url) (text : String) (position : Text.Point)
  | documentModule (name : String)

/-- Asking it of the folder with a number, whatever comes of it. -/
def Operation.program (n : Nat) : Operation → Program State Unit
  | .validate doc text quick => do
    let _ ← Workspace.validate n doc text quick
  | .lint settings doc => inContext n do
    let r ← runner
    let _ ← runLint r settings doc
  | .checkSyntax doc => inContext n do
    let r ← runner
    let _ ← syntaxCheck r doc
  | .runTool executable args mounts => inContext n do
    let r ← runner
    let _ ← r.run executable args mounts
  | .findTool executable => inContext n do
    let r ← runner
    let _ ← r.locate executable
  | .environment => inContext n do
    let _ ← executionEnvironment
  | .toolPaths => inContext n do
    let _ ← Workspace.toolPaths
  | .library => inContext n do
    let _ ← Workspace.library
  | .complete uri text position => inContext n do
    let request ← completionRequest uri text position
    let _ ← completeRequest request
  | .documentModule name => inContext n do
    let _ ← moduleDocumentation name

section Operations

variable {α : Type} {s : State} {n : Nat} {log : List Exchange}

/-- A folder is sealed, and its values are not being built. -/
structure State.Secure (log : List Exchange) (n : Nat) (s : State) : Prop where
  there : n < s.contexts.length
  isSealed : Sealed log (s.context n)
  atRest : (s.context n).AtRest

/-- How an operation leaves a folder that is sealed. -/
structure Leaves (log : List Exchange) (n : Nat) (s : State) (said : List Exchange) (s' : State) : Prop where
  there : n < s'.contexts.length
  keeps : KeepsSealed log (s.context n) said (s'.context n)
  atRest : (s'.context n).AtRest

theorem Leaves.secure {said : List Exchange} {s' : State} (h : Leaves log n s said s') :
    s'.Secure (log ++ said) n :=
  ⟨h.there, h.keeps.isSealed, h.atRest⟩

theorem completes_inContext (hs : s.Secure log n) {p : Program Context α} {promised : α → Context → Prop}
    (hp : Confined p promised (s.context n)) (hrest : ∀ v c, promised v c → c.AtRest) :
    (inContext n p).Completes (fun said v s' => Leaves log n s said s' ∧ promised v (s'.context n)) s := by
  refine (Program.Completes.zoom (partOf_context hs.there) (hp log hs.isSealed)).mono ?_
  rintro said v _ ⟨c, rfl, hkeeps, hc⟩
  have hcontext : (State.putContext n c s).context n = c := (partOf_context hs.there).get_put c
  rw [hcontext]
  refine ⟨⟨?_, ?_, ?_⟩, hc⟩
  · simpa [State.putContext] using hs.there
  · rwa [hcontext]
  · rw [hcontext]
    exact hrest v c hc

theorem completes_validate (hs : s.Secure log n) (doc : Url) (text : String) (quick : Bool) :
    (validate n doc text quick).Completes (fun said _ s' => Leaves log n s said s') s := by
  refine (completes_look _ s).bind ?_
  rintro said settings s ⟨rfl, rfl, rfl⟩
  have hquiet : Leaves log n s [] s := ⟨hs.there, hs.isSealed.quiet, hs.atRest⟩
  split
  next => exact hquiet
  next =>
      cases quick with
      | true => exact hquiet
      | false =>
          have hpass := (confined_fullPass doc text (s.context n)).mono fun _ _ h => h.atRest hs.atRest
          refine Program.Completes.bind (completes_inContext hs hpass fun _ _ h => h) ?_
          rintro said found s' ⟨hleaves, -⟩
          have hkeeps := hleaves.keeps
          rw [← List.append_nil said] at hkeeps
          exact ⟨hleaves.there, hkeeps, hleaves.atRest⟩

/-- What is done with a runner that leaves the paths and the library alone. -/
theorem confined_withRunner {c : Context} (hc : c.AtRest) {p : Runner → Program Context α}
    (hp : ∀ r c', Using r c' → Confined (p r) (fun _ c'' => Apart c' c'') c') :
    Confined (do let r ← runner; let _ ← p r) (fun _ c' => c'.AtRest) c := by
  refine (confined_runner c).bind ?_
  rintro r c₁ ⟨hr, hapart⟩
  refine (hp r c₁ hr).bind ?_
  intro v c₂ hapart'
  exact confined_pure ((hapart.trans hapart').atRest hc)

/-- What leaves the folder as it is. -/
theorem confined_apart {c : Context} {p : Program Context α} (hp : Confined p (fun _ c' => c' = c) c) :
    Confined p (fun _ c' => Apart c c') c := by
  refine hp.mono ?_
  rintro _ _ rfl
  exact .refl _

theorem completes_operation (hs : s.Secure log n) (op : Operation) :
    (op.program n).Completes (fun said _ s' => Leaves log n s said s') s := by
  have hfolder {p : Program Context Unit} (hp : Confined p (fun _ c => c.AtRest) (s.context n)) :
      (inContext n p).Completes (fun said _ s' => Leaves log n s said s') s :=
    (completes_inContext hs hp fun _ _ h => h).mono fun _ _ _ h => h.1
  have hdiscard {β : Type} {p : Program Context β} (hp : Confined p (fun _ c => c.AtRest) (s.context n)) :
      Confined (do let _ ← p) (fun _ c => c.AtRest) (s.context n) :=
    hp.bind fun _ _ h => confined_pure h
  cases op with
  | validate doc text quick =>
      refine Program.Completes.bind (completes_validate hs doc text quick) ?_
      intro said found s' hleaves
      have hkeeps := hleaves.keeps
      rw [← List.append_nil said] at hkeeps
      exact ⟨hleaves.there, hkeeps, hleaves.atRest⟩
  | lint settings doc => exact hfolder (confined_withRunner hs.atRest fun _ _ hr => confined_runLint hr settings doc)
  | checkSyntax doc =>
      exact hfolder (confined_withRunner hs.atRest fun _ _ hr =>
        confined_apart (confined_inContainer (says_syntaxCheck hr.uses doc) hr.kept))
  | runTool executable args mounts =>
      exact hfolder (confined_withRunner hs.atRest fun _ _ hr =>
        confined_apart (confined_inContainer (says_runner_run hr.uses executable args mounts) hr.kept))
  | findTool executable =>
      exact hfolder (confined_withRunner hs.atRest fun _ _ hr =>
        confined_apart (confined_inContainer (says_runner_locate hr.uses executable) hr.kept))
  | environment =>
      exact hfolder (hdiscard ((confined_executionEnvironment _).mono fun _ _ h => h.2.atRest hs.atRest))
  | toolPaths =>
      refine hfolder (hdiscard ((confined_toolPaths hs.atRest.paths _ rfl).mono ?_))
      rintro _ c ⟨hpaths, hlibrary⟩
      exact ⟨hpaths, by rw [hlibrary, hs.atRest.library]⟩
  | library => exact hfolder (hdiscard (confined_library hs.atRest))
  | complete uri text position =>
      refine hfolder ((confined_completionRequest hs.atRest uri text position).bind ?_)
      intro request c hc
      refine (confined_rememberModules hc _).bind ?_
      intro _ c' hc'
      exact confined_pure hc'
  | documentModule name => exact hfolder (hdiscard (confined_moduleDocumentation hs.atRest name))

end Operations

/-- What was said to a folder over its use so far, from when no environment was kept on: operations one after another,
    and between them new settings that ask for an environment still, changes of files, and whatever leaves the folder
    as it is. -/
inductive Usage {ω : Type} (answer : (q : Query) → ω → q.Answer × ω) (n : Nat) : List Exchange → State → ω → Prop where
  | start (s : State) (w : ω) (hn : n < s.contexts.length)
      (henabled : (s.context n).settings.environment.enabled = true)
      (hnew : (s.context n).environment.value? = none) (hidle : (s.context n).environment.isBuilding = false)
      (hrest : (s.context n).AtRest) : Usage answer n [] s w
  | operate {log : List Exchange} {s : State} {w : ω} (h : Usage answer n log s w) (op : Operation) {s' : State}
      {w' : ω} {said : List Exchange}
      (hrun : (op.program n).run (recording answer) s (w, []) = .finished () s' (w', said)) :
      Usage answer n (log ++ said) s' w'
  | intervene {log : List Exchange} {s : State} {w : ω} (h : Usage answer n log s w) (act : Intervention) (s' : State)
      (w' : ω) (hn : n < s'.contexts.length) (hcontext : s'.context n = act.apply (s.context n))
      (henabled : (s'.context n).settings.environment.enabled = true) : Usage answer n log s' w'
  | elsewhere {log : List Exchange} {s : State} {w : ω} (h : Usage answer n log s w) (s' : State) (w' : ω)
      (hn : n < s'.contexts.length) (hcontext : s'.context n = s.context n) : Usage answer n log s' w'

/-- New settings and changes of files give an environment up at most. -/
theorem environment_apply (act : Intervention) (c : Context) :
    (act.apply c).environment = c.environment ∨ (act.apply c).environment = c.environment.invalidate := by
  cases act with
  | updateSettings settings =>
      by_cases hsame : c.settings.environment = settings.environment
      · exact .inl (if_pos hsame)
      · exact .inr (if_neg hsame)
  | handleFileEvents changed =>
      simp only [Intervention.apply, Context.handleFileEvents]
      split <;> exact .inl rfl

theorem Sealed.intervene {log : List Exchange} {c : Context} (h : Sealed log c) (act : Intervention)
    (henabled : (act.apply c).settings.environment.enabled = true) : Sealed log (act.apply c) := by
  rcases environment_apply act c with hkept | hgiven
  · exact ⟨h.isolated, henabled, by rw [hkept, h.idle], by rw [hkept]; exact h.engine⟩
  · refine ⟨h.isolated, henabled, by rw [hgiven]; rfl, ?_⟩
    intro e he
    rw [hgiven] at he
    cases he

theorem Context.AtRest.intervene {c : Context} (h : c.AtRest) (act : Intervention) : (act.apply c).AtRest := by
  cases act with
  | updateSettings settings => exact ⟨rfl, rfl⟩
  | handleFileEvents changed =>
      simp only [Intervention.apply, Context.handleFileEvents]
      split
      next => exact ⟨rfl, rfl⟩
      next => exact ⟨h.paths, h.library⟩

section Usage

variable {ω : Type} {answer : (q : Query) → ω → q.Answer × ω} {n : Nat} {log : List Exchange} {s : State} {w : ω}

theorem Usage.secure (h : Usage answer n log s w) : s.Secure log n := by
  induction h with
  | start s w hn henabled hnew hidle hrest =>
      refine ⟨hn, ⟨.nil, henabled, hidle, ?_⟩, hrest⟩
      intro e he
      rw [hnew] at he
      cases he
  | operate h op hrun ih => exact ((completes_operation ih op).of_run hrun).secure
  | intervene h act s' w' hn hcontext henabled ih =>
      rw [hcontext] at henabled
      exact ⟨hn, hcontext ▸ ih.isSealed.intervene act henabled, hcontext ▸ ih.atRest.intervene act⟩
  | elsewhere h s' w' hn hcontext ih => exact ⟨hn, hcontext ▸ ih.isSealed, hcontext ▸ ih.atRest⟩

/-- Over the whole use of a folder whose settings ask for a container environment, every command looks for an engine or
    is one of the engine that was found last. Whatever is asked of the folder next comes to its end. If the environment
    could not be set up, it executes nothing, and there is no environment after it either. Any runner that the folder
    gives out runs in the environment that is kept, and if there is none, every run of a tool fails for want of it
    without a command. -/
theorem commands_stay_in_container (h : Usage answer n log s w) :
    (∀ (before : List Exchange) (request : CommandRequest) (result : Except ExecFault CommandOutput)
        (after : List Exchange), log = before ++ ⟨.run request, result⟩ :: after →
      IsLookup request.command ∨ ∃ engine, detected? before = some engine ∧ engine.Runs request.command) ∧
    (∀ op : Operation, ∃ s' w' said,
      (op.program n).run (recording answer) s (w, []) = .finished () s' (w', said) ∧
      Usage answer n (log ++ said) s' w' ∧
      ((s.context n).environment.value? = some none →
        commandLines said = [] ∧ (s'.context n).environment.value? = some none)) ∧
    ∃ r s' w' said, (inContext n runner).run (recording answer) s (w, []) = .finished r s' (w', said) ∧
      r.usesEnvironment = true ∧ (s'.context n).environment.value? = some r.environment ∧
      (∀ kept, (s.context n).environment.value? = some kept → r.environment = kept) ∧
      (r.environment = none →
        (∀ executable args mounts, (inContext n (r.run executable args mounts)).run (recording answer) s' (w', []) =
          .finished (.error .environmentUnavailable) s' (w', [])) ∧
        (∀ doc, (inContext n (syntaxCheck r doc)).run (recording answer) s' (w', []) =
          .finished (.error .environmentUnavailable) s' (w', [])) ∧
        ∀ settings doc, ∃ s'' w'' said', (inContext n (runLint r settings doc)).run (recording answer) s' (w', []) =
          .finished (.error (.exec .environmentUnavailable)) s'' (w'', said') ∧ commandLines said' = []) := by
  have hs := h.secure
  refine ⟨?_, ?_, ?_⟩
  · rintro before request result after rfl
    exact hs.isSealed.isolated before _ after rfl request.command rfl
  · intro op
    obtain ⟨⟨⟩, s', w', said, hrun, hleaves⟩ := (completes_operation hs op).run answer w []
    refine ⟨s', w', said, hrun, h.operate op hrun, ?_⟩
    intro hnone
    obtain ⟨hstill, hsaid⟩ := hleaves.keeps.stays none hnone
    exact ⟨commandLines_of_inContainer hsaid, hstill⟩
  · have hrunner : Confined runner (fun r c => Using r c ∧ c.AtRest) (s.context n) :=
      (confined_runner _).mono fun _ _ hr => ⟨hr.1, hr.2.atRest hs.atRest⟩
    obtain ⟨r, s', w', said, hrun, hleaves, hr, -⟩ := (completes_inContext hs hrunner fun _ _ h => h.2).run answer w []
    refine ⟨r, s', w', said, hrun, hr.uses, hr.environment, ?_, ?_⟩
    · intro kept hkept
      obtain ⟨hstill, -⟩ := hleaves.keeps.stays kept hkept
      exact Option.some.inj (hr.environment.symm.trans hstill)
    intro hnone
    refine ⟨?_, ?_, ?_⟩
    · intro executable args mounts
      rw [runner_run_unavailable hr.uses hnone]
      rfl
    · intro doc
      rw [syntaxCheck_unavailable hr.uses hnone]
      rfl
    · intro settings doc
      have hlint := completes_runLint_unavailable hr.uses hnone settings doc (s'.context n)
      obtain ⟨v, s'', w'', said', hrun', c, -, hsaid, rfl⟩ :=
        (Program.Completes.zoom (partOf_context hleaves.there) hlint).run answer w' []
      exact ⟨s'', w'', said', hrun', hsaid⟩

end Usage

/-- A workspace with one folder that asks for a container environment. -/
def containerFolder : State :=
  { contexts := [{ folder := default, host := {}, settings := { environment := { enabled := true } } }] }

/-- A world like the silent one, in which podman is installed. -/
def podmanWorld : (q : Query) → Unit → q.Answer × Unit
  | .run request, _ => (.ok { stdout := if request.command = "command -v podman" then "/usr/bin/podman" else "" }, ())
  | q, w => silentWorld q w

theorem containerFolder_usage {answer : (q : Query) → Unit → q.Answer × Unit} :
    Usage answer 0 [] containerFolder () :=
  .start containerFolder () (by decide) rfl rfl rfl ⟨rfl, rfl⟩

/-- Where podman is found the commands are its own; where no engine is found a tool is not run. -/
theorem podman_found_or_nothing_run :
    (∃ log s, Usage podmanWorld 0 log s () ∧ detected? log = some .podman ∧ ∃ s' w' said,
      ((Operation.runTool "ansible" "--version" []).program 0).run (recording podmanWorld) s ((), []) =
        .finished () s' (w', said) ∧
      ∀ before request result after, log ++ said = before ++ ⟨.run request, result⟩ :: after →
        IsLookup request.command ∨ ∃ engine, detected? before = some engine ∧ engine.Runs request.command) ∧
    ∃ log s, Usage silentWorld 0 log s () ∧
      commandLines log = ["command -v podman", "whereis podman", "command -v docker", "whereis docker"] ∧
      ∃ r s' w' said, (inContext 0 runner).run (recording silentWorld) s ((), []) = .finished r s' (w', said) ∧
        (inContext 0 (r.run "ansible" "--version" [])).run (recording silentWorld) s' (w', []) =
          .finished (.error .environmentUnavailable) s' (w', []) := by
  constructor
  · obtain ⟨s, log, hrun, hdetected⟩ : ∃ s log, (Operation.environment.program 0).run (recording podmanWorld)
        containerFolder ((), []) = .finished () s ((), log) ∧ detected? log = some .podman := ⟨_, _, rfl, rfl⟩
    have husage := containerFolder_usage.operate _ hrun
    obtain ⟨-, hnext, -⟩ := commands_stay_in_container husage
    obtain ⟨s', w', said, hrun', husage', -⟩ := hnext (.runTool "ansible" "--version" [])
    exact ⟨log, s, husage, hdetected, s', w', said, hrun', (commands_stay_in_container husage').1⟩
  · obtain ⟨s, log, hrun, hnone, hlines⟩ : ∃ s log, (Operation.environment.program 0).run (recording silentWorld)
        containerFolder ((), []) = .finished () s ((), log) ∧ (s.context 0).environment.value? = some none ∧
        commandLines log = ["command -v podman", "whereis podman", "command -v docker", "whereis docker"] :=
      ⟨_, _, rfl, rfl, rfl⟩
    have husage := containerFolder_usage.operate _ hrun
    obtain ⟨-, -, r, s', w', said, hrunner, -, -, hkept, hfails⟩ := commands_stay_in_container husage
    obtain ⟨hruns, -, -⟩ := hfails (hkept none hnone)
    exact ⟨log, s, husage, hlines, r, s', w', said, hrunner, hruns "ansible" "--version" []⟩

end PlaybookServer.Workspace

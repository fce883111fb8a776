/-
Module: PlaybookServer.Proofs.Workspace.Freshness
Purpose: How fresh the values are that a folder's context keeps. Settings are updated, files change, and callers ask
  for the environment, the tools' paths and the library, in any order. A library that is kept was indexed from paths
  which were looked for after the last update and after the last change inside the folder, and while they were
  looked for everyone found the settings of now. An environment that is kept or under way was started with the
  environment settings of now, so there is at most one set-up, with at most one message, for each change of them.
Main exports: Intervention, Call, Kept, PathsFresh, SetUpAsSet, Fresh, kept_values_are_fresh
-/
import PlaybookServer.Proofs.Container.SetUp
import PlaybookServer.Proofs.Effect.Epochs
import PlaybookServer.Proofs.Tool.Commands

namespace PlaybookServer.Workspace

open Effect Tool Container Docs

/-! ### What happens to a context -/

/-- What is done to a context from outside. -/
inductive Intervention where
  | updateSettings (settings : Settings)
  | handleFileEvents (changed : List Url)

namespace Intervention

def apply : Intervention → Context → Context
  | .updateSettings settings, c => c.updateSettings settings
  | .handleFileEvents changed, c => c.handleFileEvents changed

/-- New settings are taken. -/
def updates : Intervention → Context → Bool
  | .updateSettings _, _ => true
  | .handleFileEvents _, _ => false

/-- New settings are taken, or a file inside the folder has changed. -/
def concernsTools : Intervention → Context → Bool
  | .updateSettings _, _ => true
  | .handleFileEvents changed, c => changed.any c.folder.holds

/-- Other environment settings are taken. -/
def concernsEnvironment : Intervention → Context → Bool
  | .updateSettings settings, c => c.settings.environment ≠ settings.environment
  | .handleFileEvents _, _ => false

end Intervention

open Intervention

/-- What callers ask for. -/
inductive Call where
  | executionEnvironment
  | toolPaths
  | library

/-- Asking, whatever the caller does with the value. -/
def Call.program : Call → Program Context Unit
  | .executionEnvironment => do let _ ← Workspace.executionEnvironment
  | .toolPaths => do let _ ← Workspace.toolPaths
  | .library => do let _ ← Workspace.library

/-- What can become of a context through interventions and calls. -/
abbrev Reached (suspends : Query → Bool) (c : Context) (course : Course Context Intervention) : Prop :=
  Course.Reachable suspends Intervention.apply (fun p => ∃ call : Call, p = call.program) c course

/-! ### The invariant -/

/-- The environment that a set-up ended with is one for the settings it was started with. -/
def EnvironmentKnown (n : Nat) (v : Option Environment) (h : History Context Intervention) : Prop :=
  ∃ since c c' before, h = since ++ .changed c c' :: before ∧
    Starts (μ := Intervention) Context.environment n (.changed c c') ∧
    ∀ e, v = some e → e.settings = c.settings.environment

/-- Of the paths nothing more is known than that a build ended with them. -/
def PathsKnown (_ : Nat) (_ : ToolPaths) (_ : History Context Intervention) : Prop := True

/-- A library that a build ended with was indexed from paths that were not looked for in an earlier epoch than
    that in which the build was started. -/
def LibraryKnown (n : Nat) (l : Library) (h : History Context Intervention) : Prop :=
  ∃ fs p k, l = Library.index fs p ∧ StartedIn Context.library concernsTools n k h ∧
    Served Context.paths concernsTools PathsKnown k p h

/-- All that is kept is where its history left it. -/
structure Kept (c : Context) (h : History Context Intervention) : Prop where
  environment : Tracked Context.environment concernsEnvironment EnvironmentKnown c h
  paths : Tracked Context.paths concernsTools PathsKnown c h
  library : Tracked Context.library concernsTools LibraryKnown c h
  settings : Steady Context.settings updates c h
  environmentSettings : Steady (fun c => c.settings.environment) concernsEnvironment c h

section Known

variable {n : Nat} {x : Occurrence Context Intervention} {h : History Context Intervention}

theorem EnvironmentKnown.cons {v : Option Environment} (hv : EnvironmentKnown n v h) :
    EnvironmentKnown n v (x :: h) := by
  obtain ⟨since, c, c', before, rfl, hstarts, hsettings⟩ := hv
  exact ⟨x :: since, c, c', before, rfl, hstarts, hsettings⟩

theorem LibraryKnown.cons {l : Library} (hl : LibraryKnown n l h) : LibraryKnown n l (x :: h) := by
  obtain ⟨fs, p, k, hindex, hstarted, hserved⟩ := hl
  exact ⟨fs, p, k, hindex, .inr hstarted, hserved.mono (List.suffix_cons x h) fun _ hknown => hknown⟩

end Known

namespace Kept

variable {c : Context} {h : History Context Intervention}

theorem initial (folder : Folder) (host : HostEnv) (settings : Settings) :
    Kept { folder, host, settings } [] where
  environment := .initial rfl
  paths := .initial rfl
  library := .initial rfl
  settings := .initial _ _ _
  environmentSettings := .initial _ _ _

/-- New settings give everything up but the environment, which stays unless its own settings change. -/
theorem updateSettings (hc : Kept c h) (settings : Settings) :
    Kept (c.updateSettings settings) (.outside (.updateSettings settings) c :: h) where
  environment := by
    by_cases hsame : c.settings.environment = settings.environment
    · have hkept : concernsEnvironment (.updateSettings settings) c = false := decide_eq_false (not_not.2 hsame)
      exact hc.environment.other (if_pos hsame) hkept (fun _ => id) fun _ _ hv => hv.cons
    · have hgiven : concernsEnvironment (.updateSettings settings) c = true := decide_eq_true hsame
      exact hc.environment.giveUp (if_neg hsame) hgiven fun _ _ hv => hv.cons
  paths := hc.paths.giveUp rfl rfl fun _ _ _ => trivial
  library := hc.library.giveUp rfl rfl fun _ _ hl => hl.cons
  settings := .alter rfl
  environmentSettings := by
    by_cases hsame : c.settings.environment = settings.environment
    · exact hc.environmentSettings.stay hsame (.inl rfl)
    · have hgiven : concernsEnvironment (.updateSettings settings) c = true := decide_eq_true hsame
      exact .alter hgiven

/-- A change inside the folder gives the paths and the library up; another change does not. -/
theorem handleFileEvents (hc : Kept c h) (changed : List Url) :
    Kept (c.handleFileEvents changed) (.outside (.handleFileEvents changed) c :: h) := by
  have henvironment : (c.handleFileEvents changed).environment = c.environment := by
    unfold Context.handleFileEvents
    dsimp only
    split <;> rfl
  have hsettings : (c.handleFileEvents changed).settings = c.settings := by
    unfold Context.handleFileEvents
    dsimp only
    split <;> rfl
  have htools : Tracked Context.paths concernsTools PathsKnown (c.handleFileEvents changed)
      (.outside (.handleFileEvents changed) c :: h) ∧
      Tracked Context.library concernsTools LibraryKnown (c.handleFileEvents changed)
        (.outside (.handleFileEvents changed) c :: h) := by
    unfold Context.handleFileEvents
    dsimp only
    split
    next hinside =>
        exact ⟨hc.paths.giveUp rfl hinside fun _ _ _ => trivial, hc.library.giveUp rfl hinside fun _ _ hl => hl.cons⟩
    next hinside =>
        have hkept := Bool.eq_false_iff.2 hinside
        exact ⟨hc.paths.other rfl hkept (fun _ => id) fun _ _ _ => trivial,
          hc.library.other rfl hkept (fun _ => id) fun _ _ hl => hl.cons⟩
  refine ⟨?_, htools.1, htools.2, ?_, ?_⟩
  · exact hc.environment.other henvironment rfl (fun _ => id) fun _ _ hv => hv.cons
  · exact hc.settings.stay hsettings.symm (.inl rfl)
  · exact hc.environmentSettings.stay (congrArg Settings.environment hsettings.symm) (.inl rfl)

theorem intervention (act : Intervention) (c : Context) (h : History Context Intervention) (hc : Kept c h) :
    Kept (act.apply c) (.outside act c :: h) := by
  cases act with
  | updateSettings settings => exact hc.updateSettings settings
  | handleFileEvents changed => exact hc.handleFileEvents changed

/-- What neither starts a build nor comes from outside changes nothing. -/
theorem note {x : Occurrence Context Intervention} (hc : Kept c h)
    (hx : (∃ q, x = .asked q) ∨ x = .looked c) : Kept c (x :: h) := by
  have hkept (gives : Intervention → Context → Bool) : x.givesUp gives = false := by
    rcases hx with ⟨q, rfl⟩ | rfl <;> rfl
  have hstarts {α : Type} (get : Context → Deferred α) (n : Nat) : ¬ Starts get n x := by
    rcases hx with ⟨q, rfl⟩ | rfl <;> exact id
  have hfound : x.found? = none ∨ x.found? = some c := by
    rcases hx with ⟨q, rfl⟩ | rfl
    · exact .inl rfl
    · exact .inr rfl
  exact {
    environment := hc.environment.other rfl (hkept _) (hstarts _) fun _ _ hv => hv.cons
    paths := hc.paths.other rfl (hkept _) (hstarts _) fun _ _ _ => trivial
    library := hc.library.other rfl (hkept _) (hstarts _) fun _ _ hl => hl.cons
    settings := hc.settings.stay rfl hfound
    environmentSettings := hc.environmentSettings.stay rfl hfound }

theorem ask (q : Query) (c : Context) (h : History Context Intervention) (hc : Kept c h) : Kept c (.asked q :: h) :=
  hc.note (.inl ⟨q, rfl⟩)

theorem look (c : Context) (h : History Context Intervention) (hc : Kept c h) : Kept c (.looked c :: h) :=
  hc.note (.inr rfl)

/-- One of the three values is changed, and the others stay. -/
theorem guarded_environment : Guarded Context.environment (fun d c => { c with environment := d })
    concernsEnvironment EnvironmentKnown Kept where
  get_put _ _ := rfl
  tracked _ _ hc := hc.environment
  look := Kept.look
  change _ _ _ hc hchanged := {
    environment := hchanged
    paths := hc.paths.other rfl rfl (Tracked.not_starts rfl) fun _ _ _ => trivial
    library := hc.library.other rfl rfl (Tracked.not_starts rfl) fun _ _ hl => hl.cons
    settings := hc.settings.stay rfl (.inr rfl)
    environmentSettings := hc.environmentSettings.stay rfl (.inr rfl) }
  stays_known _ _ _ _ hv := hv.cons

theorem guarded_paths : Guarded Context.paths (fun d c => { c with paths := d }) concernsTools PathsKnown Kept where
  get_put _ _ := rfl
  tracked _ _ hc := hc.paths
  look := Kept.look
  change _ _ _ hc hchanged := {
    environment := hc.environment.other rfl rfl (Tracked.not_starts rfl) fun _ _ hv => hv.cons
    paths := hchanged
    library := hc.library.other rfl rfl (Tracked.not_starts rfl) fun _ _ hl => hl.cons
    settings := hc.settings.stay rfl (.inr rfl)
    environmentSettings := hc.environmentSettings.stay rfl (.inr rfl) }
  stays_known _ _ _ _ _ := trivial

theorem guarded_library : Guarded Context.library (fun d c => { c with library := d }) concernsTools LibraryKnown
    Kept where
  get_put _ _ := rfl
  tracked _ _ hc := hc.library
  look := Kept.look
  change _ _ _ hc hchanged := {
    environment := hc.environment.other rfl rfl (Tracked.not_starts rfl) fun _ _ hv => hv.cons
    paths := hc.paths.other rfl rfl (Tracked.not_starts rfl) fun _ _ _ => trivial
    library := hchanged
    settings := hc.settings.stay rfl (.inr rfl)
    environmentSettings := hc.environmentSettings.stay rfl (.inr rfl) }
  stays_known _ _ _ _ hl := hl.cons

end Kept

/-! ### The calls keep the invariant -/

section Calls

variable {suspends : Query → Bool} {c : Context} {h : History Context Intervention}

/-- What works on the world alone keeps the invariant. -/
theorem proceeds_outward {α : Type} {p : Program Context α} (hp : p.Outward) (hc : Kept c h) :
    p.Proceeds suspends Kept (fun _ => Kept) c h := by
  refine (hp.proceeds Kept.ask Kept.look ?_ hc).mono fun _ _ _ _ hv => hv.1
  exact fun _ _ _ hchange => absurd hchange id

theorem proceeds_executionEnvironment (hc : Kept c h) :
    executionEnvironment.Proceeds suspends Kept (fun _ => Kept) c h := by
  have hlooked := hc.look
  show Program.Proceeds suspends Kept (fun _ => Kept) (if !c.settings.environment.enabled then return none
    else getOrBuild (fun c => c.environment) (fun d c => { c with environment := d }) (setUpEnvironment c.settings))
    c (.looked c :: h)
  split
  next => exact hlooked
  next =>
      refine (proceeds_getOrBuild Kept.guarded_environment hlooked ?_).mono fun _ _ _ _ hv => hv.1
      intro n c' hstarts hstarted
      refine ((converses_setUpEnvironment c.settings).proceeds Kept.ask Kept.look hstarted).mono ?_
      rintro v t g ⟨since, rfl⟩ ⟨ht, said, htold⟩
      refine ⟨ht, since, c, c', _, rfl, hstarts, ?_⟩
      rintro e rfl
      exact htold.1

theorem proceeds_findToolPaths (hc : Kept c h) : findToolPaths.Proceeds suspends Kept (fun _ => Kept) c h := by
  have hrunner : runner.Proceeds suspends Kept (fun _ => Kept) c h :=
    (proceeds_executionEnvironment hc).bind fun _ c' h' _ hc' => hc'.look
  refine hrunner.bind fun r c' h' _ hc' => ?_
  refine (proceeds_outward (outward_discoverPaths r) hc').bind fun paths c' h' _ hc' => ?_
  refine (proceeds_executionEnvironment hc').bind fun environment c' h' _ hc' => ?_
  split
  next => exact hc'
  next e =>
      refine (proceeds_outward (e.outward_fetchPluginDocs paths) hc').bind fun fetched c' h' _ hc' => ?_
      split
      next => exact hc'
      next f =>
          have hshow : (showError f.text : Program Context _).Outward := within_ask trivial
          exact (proceeds_outward hshow hc').bind fun _ _ _ _ hc' => hc'

/-- Whoever asks for the paths gets such as were not looked for in an earlier epoch. -/
theorem proceeds_toolPaths (hc : Kept c h) : toolPaths.Proceeds suspends Kept
    (fun p c' h' => Kept c' h' ∧ Served Context.paths concernsTools PathsKnown (epoch concernsTools h) p h') c h := by
  refine proceeds_getOrBuild Kept.guarded_paths hc fun n c' _ hstarted => ?_
  exact (proceeds_findToolPaths hstarted).mono fun _ _ _ _ ht => ⟨ht, trivial⟩

theorem proceeds_library (hc : Kept c h) : library.Proceeds suspends Kept (fun _ => Kept) c h := by
  refine (proceeds_getOrBuild Kept.guarded_library hc ?_).mono fun _ _ _ _ hv => hv.1
  intro n c' hstarts hstarted
  have hstartedIn : StartedIn Context.library concernsTools n (epoch concernsTools h)
      (.changed c c' :: .looked c :: h) := .inl ⟨hstarts, epoch_of_kept rfl⟩
  refine (proceeds_toolPaths hstarted).bind fun p t g hgrown hp => ?_
  have hsee : (seeFiles : Program Context _).Outward := within_ask trivial
  refine (proceeds_outward hsee hp.1).bind fun fs t' g' hgrown' ht' => ?_
  have hserved := hp.2.mono hgrown' fun _ hknown => hknown
  rw [epoch_of_kept rfl, epoch_of_kept rfl] at hserved
  exact ⟨ht', fs, p, epoch concernsTools h, rfl, (hstartedIn.mono hgrown).mono hgrown', hserved⟩

end Calls

/-- However interventions and calls are interleaved, all that is kept is where its history left it. -/
theorem Reached.kept {suspends : Query → Bool} {folder : Folder} {host : HostEnv} {settings : Settings}
    {course : Course Context Intervention} (reached : Reached suspends { folder, host, settings } course) :
    Kept course.state course.history := by
  refine Course.Reachable.invariant Kept.intervention ?_ (Kept.initial folder host settings) reached
  rintro _ ⟨call, rfl⟩ c h hc
  cases call with
  | executionEnvironment => exact (proceeds_executionEnvironment hc).bind fun _ _ _ _ hc' => hc'
  | toolPaths => exact (proceeds_toolPaths hc).bind fun _ _ _ _ hc' => hc'.1
  | library => exact (proceeds_library hc).bind fun _ _ _ _ hc' => hc'

/-! ### What is kept is fresh -/

/-- The paths were looked for by a build that was started since the last intervention that concerns the tools, and
    since that build was started every look has found the settings of now. -/
def PathsFresh (course : Course Context Intervention) (p : ToolPaths) : Prop :=
  ∃ n since start before, course.history = since ++ start :: before ∧ Starts Context.paths n start ∧
    (∀ x ∈ since, x.givesUp concernsTools = false) ∧ (∃ x ∈ since, Ends Context.paths n p x) ∧
    ∀ c, .looked c ∈ since → c.settings = course.state.settings

/-- A set-up was started since the environment settings were last changed, with the environment settings of now.
    It has ended if it has a result, with an environment for the settings of now or without one. -/
def SetUpAsSet (course : Course Context Intervention) (n : Nat) (result : Option (Option Environment)) : Prop :=
  ∃ since c c' before, course.history = since ++ .changed c c' :: before ∧
    Starts (μ := Intervention) Context.environment n (.changed c c') ∧
    (∀ x ∈ since, x.givesUp concernsEnvironment = false) ∧
    c.settings.environment = course.state.settings.environment ∧
    ∀ v, result = some v → (∃ x ∈ since, Ends Context.environment n v x) ∧
      ∀ e, v = some e → e.settings = course.state.settings.environment

/-- All that is kept for a folder is fresh. -/
structure Fresh (course : Course Context Intervention) : Prop where
  library : ∀ l, course.state.library.phase = .ready l → ∃ fs p, l = Library.index fs p ∧ PathsFresh course p
  paths : ∀ p, course.state.paths.phase = .ready p → PathsFresh course p
  underWay : ∀ n, course.state.environment.phase = .building n → SetUpAsSet course n none
  environment : ∀ v, course.state.environment.phase = .ready v → ∃ n, SetUpAsSet course n (some v)
  /-- Between two set-ups other environment settings are taken. -/
  once : ∀ newer second between first before n n', course.history = newer ++ second :: (between ++ first :: before) →
    Starts Context.environment n first → Starts Context.environment n' second →
    ∃ x ∈ between, x.givesUp concernsEnvironment = true

/-- Whoever takes new settings gives the paths up. -/
theorem not_updates_of_not_concernsTools {x : Occurrence Context Intervention}
    (hx : x.givesUp concernsTools = false) : x.givesUp updates = false := by
  cases x with
  | outside act c =>
      cases act with
      | updateSettings settings => cases hx
      | handleFileEvents changed => rfl
  | _ => rfl

namespace Kept

variable {course : Course Context Intervention}

/-- Paths of the current epoch are fresh. -/
theorem pathsFresh (hkept : Kept course.state course.history) {n : Nat} {p : ToolPaths}
    (hstarted : StartedIn Context.paths concernsTools n (epoch concernsTools course.history) course.history)
    (hended : Ended Context.paths concernsTools n p course.history) : PathsFresh course p := by
  obtain ⟨since, start, before, heq, hstarts, hsince⟩ := exists_of_startedIn hstarted
  rw [heq] at hended
  have horder := hkept.paths.inOrder
  rw [heq] at horder
  refine ⟨n, since, start, before, heq, hstarts, hsince, hended.since hstarts horder, ?_⟩
  intro c hc
  have hupdates : ∀ x ∈ since, x.givesUp updates = false := fun x hx => not_updates_of_not_concernsTools (hsince x hx)
  exact hkept.settings since (start :: before) heq hupdates _ hc c rfl

/-- Since the environment settings were last changed every start has found those of now. -/
theorem settings_of_start (hkept : Kept course.state course.history) {since before : History Context Intervention}
    {c c' : Context} (heq : course.history = since ++ .changed c c' :: before)
    (hsince : ∀ x ∈ since, x.givesUp concernsEnvironment = false) :
    c.settings.environment = course.state.settings.environment := by
  have hsplit : course.history = (since ++ [.changed c c']) ++ before := by
    rw [heq, List.append_assoc]
    rfl
  have hall : ∀ x ∈ since ++ [.changed c c'], x.givesUp concernsEnvironment = false :=
    List.forall_mem_append.2 ⟨hsince, List.forall_mem_singleton.2 rfl⟩
  exact hkept.environmentSettings _ before hsplit hall _ (List.mem_append_right _ List.mem_cons_self) c rfl

/-- An environment of the current epoch is one for the settings of now. -/
theorem settings_of_known (hkept : Kept course.state course.history) {n : Nat} {v : Option Environment}
    (hstarted : StartedIn Context.environment concernsEnvironment n (epoch concernsEnvironment course.history)
      course.history) (hv : EnvironmentKnown n v course.history) :
    ∀ e, v = some e → e.settings = course.state.settings.environment := by
  obtain ⟨since, c, c', before, heq, hstarts, hsettings⟩ := hv
  have hthere : StartedIn Context.environment concernsEnvironment n (epoch concernsEnvironment before)
      course.history := by
    rw [heq]
    exact startedIn_append hstarts
  have hsame := hstarted.unique hkept.environment.inOrder hthere
  rw [heq] at hsame
  have hsince : ∀ x ∈ since, x.givesUp concernsEnvironment = false :=
    kept_of_epoch_eq (hsame.trans (epoch_of_kept rfl).symm)
  intro e he
  rw [hsettings e he, hkept.settings_of_start heq hsince]

/-- A set-up of the current epoch was started with the environment settings of now. -/
theorem setUpAsSet (hkept : Kept course.state course.history) {n : Nat} {result : Option (Option Environment)}
    (hstarted : StartedIn Context.environment concernsEnvironment n (epoch concernsEnvironment course.history)
      course.history)
    (hresult : ∀ v, result = some v → Ended Context.environment concernsEnvironment n v course.history ∧
      EnvironmentKnown n v course.history) : SetUpAsSet course n result := by
  obtain ⟨since, start, before, heq, hstarts, hsince⟩ := exists_of_startedIn hstarted
  cases start with
  | changed c c' =>
      refine ⟨since, c, c', before, heq, hstarts, hsince, hkept.settings_of_start heq hsince, ?_⟩
      intro v hv
      obtain ⟨hended, hknown⟩ := hresult v hv
      have horder := hkept.environment.inOrder
      refine ⟨?_, hkept.settings_of_known hstarted hknown⟩
      rw [heq] at hended horder
      exact hended.since hstarts horder
  | _ => exact absurd hstarts id

end Kept

/-- However settings are updated, files change and callers ask, and whatever the world answers them: what is kept
    for a folder is fresh, and a set-up of its environment shows one message if it fails and none otherwise. -/
theorem kept_values_are_fresh {suspends : Query → Bool} {folder : Folder} {host : HostEnv} {settings : Settings}
    {course : Course Context Intervention} (reached : Reached suspends { folder, host, settings } course) :
    Fresh course ∧ ∀ settings, (setUpEnvironment settings).Converses (SetUpTold settings) := by
  have hkept := reached.kept
  refine ⟨⟨?_, ?_, ?_, ?_, ?_⟩, converses_setUpEnvironment⟩
  · intro l hready
    obtain ⟨n, hstarted, -, fs, p, k, hindex, hstartedIn, m, k', hk, hpaths, hended, -⟩ := hkept.library.ready l hready
    obtain rfl := hstartedIn.unique hkept.library.inOrder hstarted
    obtain rfl : k' = epoch concernsTools course.history := Nat.le_antisymm hpaths.le hk
    exact ⟨fs, p, hindex, hkept.pathsFresh hpaths hended⟩
  · intro p hready
    obtain ⟨n, hstarted, hended, -⟩ := hkept.paths.ready p hready
    exact hkept.pathsFresh hstarted hended
  · intro n hbuilding
    refine hkept.setUpAsSet (hkept.environment.building n hbuilding) ?_
    rintro _ ⟨⟩
  · intro v hready
    obtain ⟨n, hstarted, hended, hv⟩ := hkept.environment.ready v hready
    refine ⟨n, hkept.setUpAsSet hstarted ?_⟩
    rintro _ ⟨⟩
    exact ⟨hended, hv⟩
  · intro newer second between first before n n' heq hfirst hsecond
    have horder := hkept.environment.inOrder
    rw [heq] at horder
    exact horder.givenUp_between hfirst hsecond

/-! ### A library whose folder changes -/

/-- A folder with a playbook in it. -/
def workFolder : Folder := ⟨{ scheme := "file", authority := some "", path := "/work" }, "work"⟩

def workFile : Url := { scheme := "file", authority := some "", path := "/work/site.yml" }

/-- Its context. -/
def workContext : Context := { folder := workFolder, host := {}, settings := {} }

/-- Settings that ask for an environment with a certain engine. -/
def podmanSettings : Settings := { environment := { enabled := true, engine := .podman } }

/-- No command can be run, and there are no files. -/
def deafAnswer : (q : Query) → q.Answer
  | .run _ => .error .environmentUnavailable
  | q => (silentWorld q ()).1

/-- No question suspends a program, only waiting does. -/
def onlyWaiting : Schedule Unit := ⟨fun _ => false, fun _ w => w⟩

/-- The library is asked for, and whoever asks is let go on as often as it waits: for the environment, if that is still
    to be set up, for the paths, and for the library. -/
def askLibrary (task waits : Nat) : List (Move Context Unit) :=
  .start Call.library.program :: List.replicate waits (.resume task)

/-- The library is asked for before and after a file of the folder changes. Both times it is built, and the environment,
    whose engine is not found, only once. -/
theorem library_built_again : ∃ pool pool' : Pool Context Unit Unit, ∃ l l' : Library,
    Pool.play? onlyWaiting deafAnswer (askLibrary 0 3) ⟨apply (.updateSettings podmanSettings) workContext, (), []⟩ =
      some pool ∧
    Pool.play? onlyWaiting deafAnswer (askLibrary 1 2)
      ⟨apply (.handleFileEvents [workFile]) pool.state, (), pool.tasks⟩ = some pool' ∧
    pool.state.library.phase = .ready l ∧
    (apply (.handleFileEvents [workFile]) pool.state).library.phase = .invalidated ∧
    pool'.state.library.phase = .ready l' ∧ pool'.state.environment.phase = .ready none :=
  ⟨_, _, _, _, rfl, rfl, rfl, rfl, rfl, rfl⟩

/-- An environment is asked for, its engine is not found, and the library is indexed without it. Then a file of the
    folder changes, and the library is indexed once more. -/
theorem library_without_engine_is_fresh : ∃ (course : Course Context Intervention) (c : Context)
    (since before : History Context Intervention), Reached (fun _ => false) workContext course ∧
      course.history = since ++ .outside (.handleFileEvents [workFile]) c :: before ∧ workFolder.holds workFile = true ∧
      (∃ l, c.library.phase = .ready l) ∧ (apply (.handleFileEvents [workFile]) c).library.phase = .invalidated ∧
      course.state.environment.phase = .ready none ∧ (∃ l, course.state.library.phase = .ready l) ∧ Fresh course := by
  obtain ⟨pool, pool', l, l', hplay, hplay', hready, hgivenUp, hready', henvironment⟩ := library_built_again
  have hasks (task waits : Nat) : ∀ p, Move.start p ∈ askLibrary task waits → ∃ call : Call, p = call.program := by
    intro p hp
    rcases List.mem_cons.1 hp with hp | hp
    · exact ⟨.library, Move.start.inj hp⟩
    · exact nomatch List.eq_of_mem_replicate hp
  have started : Reached onlyWaiting.suspends workContext _ :=
    .step .initial (.outside (.updateSettings podmanSettings) workContext [] [])
  obtain ⟨first, reached⟩ := Course.Reachable.of_play? hplay (hasks 0 3) started
  have changed := reached.step (.outside (.handleFileEvents [workFile]) _ _ _)
  generalize apply (.handleFileEvents [workFile]) pool.state = later at changed hplay'
  obtain ⟨since, reached'⟩ := Course.Reachable.of_play? hplay' (hasks 1 2) changed
  exact ⟨_, pool.state, since, _, reached', rfl, rfl, ⟨l, hready⟩, hgivenUp, henvironment, ⟨l', hready'⟩,
    (kept_values_are_fresh reached').1⟩

end PlaybookServer.Workspace

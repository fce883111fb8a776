/-
Module: PlaybookServer.Proofs.Container.Isolation
Purpose: Which commands reach the host where a container environment is asked for. Setting one up looks for engines, and
  goes on with commands of the engine that was found last. In an environment that is set up all commands are those of
  its engine; where there is none, nothing is run.
Main exports: IsLookup, Engine.Runs, engineFound?, detected?, Permitted, Isolated, InContainer, Isolated.append,
  converses_detectEngine, isolated_setUp, says_fetchPluginDocs, says_runner_run, says_discoverPaths
-/
import Mathlib.Data.List.Induction
import PlaybookServer.Proofs.Container.Teardown
import PlaybookServer.Proofs.Lint.Findings
import PlaybookServer.Proofs.Text.Pieces
import PlaybookServer.Tool.Discovery

namespace PlaybookServer

open Effect

namespace Container

open Text Files Docs Tool

variable {σ : Type}

/-! ### Lookups and commands of an engine -/

/-- Looking for an engine. -/
def IsLookup (line : String) : Prop :=
  ∃ engine : Engine, line = "command -v " ++ engine.name ∨ line = "whereis " ++ engine.name

/-- A command line that starts with the name of an engine. -/
def Engine.Runs (engine : Engine) (line : String) : Prop := ∃ rest, line = engine.name ++ " " ++ rest

section Runs

variable {engine : Engine} {line : String}

theorem Engine.runs_of_verb (engine : Engine) {spaced : String} (verb : String) (h : spaced = " " ++ verb)
    (rest : String) : engine.Runs (engine.name ++ spaced ++ rest) :=
  ⟨verb ++ rest, by simp only [h, String.append_assoc]⟩

theorem Engine.Runs.append (h : engine.Runs line) (more : String) : engine.Runs (line ++ more) := by
  obtain ⟨rest, rfl⟩ := h
  exact ⟨rest ++ more, by simp only [String.append_assoc]⟩

theorem runs_stopLine (engine : Engine) (name : String) : engine.Runs (stopLine engine name) :=
  engine.runs_of_verb "stop " rfl name

theorem runs_removeLine (engine : Engine) (name : String) : engine.Runs (removeLine engine name) :=
  engine.runs_of_verb "rm -f " rfl name

theorem runs_startLine (engine : Engine) (image : String) : engine.Runs (startLine engine image) :=
  (((engine.runs_of_verb "run -i --rm -d --name " rfl (sanitizeName image)).append " ").append image).append " bash"

theorem Environment.runs_idLine (e : Environment) : e.engine.Runs e.idLine :=
  (e.engine.runs_of_verb "images " rfl e.image).append _

theorem Environment.runs_pullCommand (e : Environment) : e.engine.Runs e.pullCommand :=
  ((e.engine.runs_of_verb "pull" rfl _).append " ").append e.image

/-- What goes on with a list as it was starts as the list. -/
theorem prefix_foldl {α : Type} {f : List String → α → List String} (h : ∀ args a, args <+: f args a)
    (args : List String) (as : List α) : args <+: as.foldl f args := by
  induction as generalizing args with
  | nil => exact List.prefix_refl args
  | cons a as ih => exact (h args a).trans (ih _)

theorem prefix_addVolume (args : List String) (volume : String) : args <+: Environment.addVolume args volume := by
  unfold Environment.addVolume
  split
  next => exact List.prefix_refl args
  next => exact List.prefix_append _ _

theorem prefix_addOptions (args : List String) (options : String) : args <+: Environment.addOptions args options := by
  apply prefix_foldl
  intro args option
  split
  next => exact List.prefix_refl args
  next => exact List.prefix_append _ _

/-- A command that runs in a one-shot container is run by the engine. -/
theorem Environment.runs_wrappedArgs (e : Environment) (fs : FileView) (name command : String) (mounts : List String) :
    e.engine.Runs (join " " (e.wrappedArgs fs name command mounts)) := by
  have hmounted : [e.engine.name, "run", "--rm", "--workdir", e.root, "-v", e.root ++ ":" ++ e.root] <+:
      e.mountVolumes fs (mountPaths fs [e.engine.name, "run", "--rm", "--workdir", e.root, "-v",
        e.root ++ ":" ++ e.root] mounts) :=
    (prefix_foldl (fun args _ => prefix_addVolume args _) _ _).trans
      (prefix_foldl (fun args _ => prefix_addVolume args _) _ _)
  have hwords : [e.engine.name, "run", "--rm", "--workdir", e.root, "-v", e.root ++ ":" ++ e.root] <+:
      e.wrappedArgs fs name command mounts :=
    (((hmounted.trans (List.prefix_append _ _)).trans (List.prefix_append _ _)).trans (List.prefix_append _ _)).trans
      ((prefix_addOptions _ _).trans (List.prefix_append _ _))
  obtain ⟨rest, hrest⟩ := hwords
  exact ⟨_, by rw [← hrest, List.cons_append, join_cons " " _ (by simp)]⟩

end Runs

/-- The engine that a lookup finds. -/
def engineFound? : Exchange → Option Engine
  | ⟨.run request, result⟩ => [Engine.podman, .docker].find? fun engine =>
      (request.command = "command -v " ++ engine.name && (foundPath? result).isSome) ||
        (request.command = "whereis " ++ engine.name && (listedPath? result).isSome)
  | _ => none

/-- The engine that was found last. -/
def detected? (said : List Exchange) : Option Engine := (said.filterMap engineFound?).getLast?

theorem detected?_append (said said' : List Exchange) :
    detected? (said ++ said') = (detected? said').or (detected? said) := by
  simp [detected?, List.getLast?_append]

theorem detected?_concat (said : List Exchange) (x : Exchange) :
    detected? (said ++ [x]) = (engineFound? x).or (detected? said) := by
  rw [detected?_append]
  cases h : engineFound? x <;> simp [detected?, h]

/-- The commands of an engine find none. -/
theorem Engine.Runs.engineFound? {engine : Engine} {request : CommandRequest} (h : engine.Runs request.command)
    (result : Except ExecFault CommandOutput) : engineFound? ⟨.run request, result⟩ = none := by
  obtain ⟨rest, hline⟩ := h
  have hfirst : request.command.toList.head? = engine.name.toList.head? := by
    rw [hline]
    cases engine <;> simp [Engine.name]
  have hlookup (other : Engine) : request.command ≠ "command -v " ++ other.name ∧
      request.command ≠ "whereis " ++ other.name := by
    constructor <;> intro hsame <;> rw [hsame] at hfirst <;> cases engine <;> simp [Engine.name] at hfirst
  simp [Container.engineFound?, hlookup]

theorem Engine.name_inj {engine other : Engine} : engine.name = other.name ↔ engine = other := by
  cases engine <;> cases other <;> decide

theorem command_ne_whereis (engine other : Engine) : "command -v " ++ engine.name ≠ "whereis " ++ other.name := by
  cases engine <;> cases other <;> decide

theorem find?_engine (engine : Engine) : [Engine.podman, .docker].find? (engine = ·) = some engine := by
  cases engine <;> rfl

theorem engineFound?_command (engine : Engine) {result : Except ExecFault CommandOutput}
    (h : (foundPath? result).isSome = true) :
    engineFound? (.command ("command -v " ++ engine.name) result) = some engine := by
  rw [← find?_engine engine]
  simp only [engineFound?, String.append_right_inj, Engine.name_inj, command_ne_whereis, h, decide_false,
    Bool.and_true, Bool.false_and, Bool.or_false]

theorem engineFound?_whereis (engine : Engine) {result : Except ExecFault CommandOutput}
    (h : (listedPath? result).isSome = true) :
    engineFound? (.command ("whereis " ++ engine.name) result) = some engine := by
  rw [← find?_engine engine]
  simp only [engineFound?, String.append_right_inj, Engine.name_inj, (command_ne_whereis _ _).symm, h, decide_false,
    Bool.and_true, Bool.false_and, Bool.false_or]

/-! ### What may be said -/

/-- A command looks for an engine, or is one of the engine that was found. -/
def Permitted (found : Option Engine) (x : Exchange) : Prop :=
  ∀ line, x.commandLine? = some line → IsLookup line ∨ ∃ engine, found = some engine ∧ engine.Runs line

/-- Every command looks for an engine, or is one of the engine that was found last. -/
def Isolated (said : List Exchange) : Prop :=
  ∀ before x after, said = before ++ x :: after → Permitted (detected? before) x

/-- A command is one of the environment's engine; without an environment there are none. -/
def InContainer (environment : Option Environment) (x : Exchange) : Prop :=
  ∀ line, x.commandLine? = some line → ∃ e, environment = some e ∧ e.engine.Runs line

theorem Isolated.nil : Isolated [] := by
  intro before x after h
  simp at h

theorem Isolated.concat {said : List Exchange} {x : Exchange} (h : Isolated said) (hx : Permitted (detected? said) x) :
    Isolated (said ++ [x]) := by
  intro before y after hsplit
  rcases List.eq_nil_or_concat after with rfl | ⟨after, z, rfl⟩
  · obtain ⟨rfl, hxy⟩ := List.append_inj' hsplit rfl
    obtain rfl := List.singleton_inj.1 hxy
    exact hx
  · rw [List.concat_eq_append, ← List.cons_append, ← List.append_assoc] at hsplit
    exact h before y after (List.append_inj_left' hsplit rfl)

/-- What is no command may be said at any time. -/
theorem Isolated.tell {said : List Exchange} {x : Exchange} (h : Isolated said) (hx : x.commandLine? = none) :
    Isolated (said ++ [x]) := by
  apply h.concat
  intro line hline
  rw [hx] at hline
  cases hline

theorem inContainer_of_no_command {environment : Option Environment} {x : Exchange} (h : x.commandLine? = none) :
    InContainer environment x := by
  intro line hline
  rw [h] at hline
  cases hline

theorem inContainer_of_commandLines {environment : Option Environment} {said : List Exchange}
    (h : commandLines said = []) : ∀ x ∈ said, InContainer environment x := by
  intro x hx
  exact inContainer_of_no_command (List.filterMap_eq_nil_iff.1 h x hx)

/-- Where there is no environment there are no commands. -/
theorem commandLines_of_inContainer {said : List Exchange} (h : ∀ x ∈ said, InContainer none x) :
    commandLines said = [] := by
  rw [commandLines, List.filterMap_eq_nil_iff]
  intro x hx
  cases hline : x.commandLine? with
  | none => rfl
  | some line =>
      obtain ⟨e, he, -⟩ := h x hx line hline
      cases he

/-- The commands of an environment find no other engine. -/
theorem InContainer.engineFound? {environment : Option Environment} {x : Exchange} (h : InContainer environment x) :
    engineFound? x = none := by
  obtain ⟨question, answer⟩ := x
  cases question with
  | run request =>
      obtain ⟨e, -, hruns⟩ := h request.command rfl
      exact hruns.engineFound? answer
  | _ => rfl

theorem detected?_of_inContainer {environment : Option Environment} {said : List Exchange}
    (h : ∀ x ∈ said, InContainer environment x) : detected? said = none := by
  have hnone : said.filterMap Container.engineFound? = [] := by
    rw [List.filterMap_eq_nil_iff]
    intro x hx
    exact (h x hx).engineFound?
  rw [detected?, hnone]
  rfl

/-- What is said in an environment whose engine was found last keeps to the engines. -/
theorem Isolated.append {log said : List Exchange} {environment : Option Environment} (h : Isolated log)
    (hengine : ∀ e, environment = some e → detected? log = some e.engine)
    (hsaid : ∀ x ∈ said, InContainer environment x) : Isolated (log ++ said) := by
  induction said using List.reverseRecOn with
  | nil => rwa [List.append_nil]
  | append_singleton said x ih =>
      obtain ⟨hsaid, hx⟩ := List.forall_mem_append.1 hsaid
      have hdetected : detected? (log ++ said) = detected? log := by
        rw [detected?_append, detected?_of_inContainer hsaid, Option.none_or]
      rw [← List.append_assoc]
      apply (ih hsaid).concat
      intro line hline
      obtain ⟨e, he, hruns⟩ := List.forall_mem_singleton.1 hx line hline
      exact .inr ⟨e.engine, by rw [hdetected, hengine e he], hruns⟩

/-! ### Setting an environment up -/

theorem permitted_command (engine : Engine) {line : String}
    (h : line = "command -v " ++ engine.name ∨ line = "whereis " ++ engine.name) (found : Option Engine)
    (result : Except ExecFault CommandOutput) : Permitted found (.command line result) := by
  rintro _ ⟨⟩
  exact .inl ⟨engine, h⟩

/-- An engine that is looked for and found is the one found last. -/
theorem isolated_locateEngine {log : List Exchange} (h : Isolated log) (engine : Engine) :
    (locateExecutable engine.name : Program σ _).Converses fun said place =>
      Isolated (log ++ said) ∧ (place.isSome = true → detected? (log ++ said) = some engine) := by
  refine (converses_runLine _).bind ?_
  rintro said first rfl
  have hfirst := h.concat (permitted_command engine (.inl rfl) _ first)
  split
  next place hfound =>
      refine ⟨hfirst, fun _ => ?_⟩
      rw [List.append_nil, detected?_concat, engineFound?_command engine (by rw [hfound]; rfl)]
      rfl
  next hmissed =>
      refine (converses_runLine _).bind ?_
      rintro said second rfl
      have hsecond := hfirst.concat (permitted_command engine (.inr rfl) _ second)
      rw [List.append_assoc] at hsecond
      refine ⟨hsecond, fun hlisted => ?_⟩
      rw [List.append_nil, ← List.append_assoc, detected?_concat, engineFound?_whereis engine hlisted]
      rfl

theorem isolated_firstInstalled {log : List Exchange} (h : Isolated log) (engines : List Engine) :
    (firstInstalled engines : Program σ _).Converses fun said found =>
      Isolated (log ++ said) ∧ ∀ engine, found = some engine → detected? (log ++ said) = some engine := by
  induction engines generalizing log with
  | nil =>
      refine ⟨by rwa [List.append_nil], ?_⟩
      rintro _ ⟨⟩
  | cons engine rest ih =>
      refine (isolated_locateEngine h engine).bind ?_
      rintro said place ⟨hsaid, hfound⟩
      split
      next =>
          refine ⟨by rwa [List.append_nil], ?_⟩
          rintro _ ⟨⟩
          rw [List.append_nil]
          exact hfound rfl
      next =>
          refine (ih hsaid).mono ?_
          intro said' found
          rw [List.append_assoc]
          exact id

theorem isolated_detectEngine {log : List Exchange} (h : Isolated log) (choice : EngineChoice) :
    (detectEngine choice : Program σ _).Converses fun said found =>
      Isolated (log ++ said) ∧ ∀ engine, found = .ok engine → detected? (log ++ said) = some engine := by
  refine (isolated_firstInstalled h _).bind ?_
  rintro said found ⟨hsaid, hfound⟩
  split
  next engine =>
      refine ⟨by rwa [List.append_nil], ?_⟩
      rintro _ ⟨⟩
      rw [List.append_nil]
      exact hfound engine rfl
  next =>
      refine ⟨by rwa [List.append_nil], ?_⟩
      rintro _ ⟨⟩

/-! ### What is said in an environment -/

section Says

variable {environment : Option Environment} {e : Environment}

theorem inContainer_run {request : CommandRequest} (h : e.engine.Runs request.command)
    (result : Except ExecFault CommandOutput) : InContainer (some e) ⟨.run request, result⟩ := by
  rintro _ ⟨⟩
  exact ⟨e, rfl, h⟩

theorem says_engine {line : String} (h : e.engine.Runs line) :
    (runLine line : Program σ _).Says (InContainer (some e)) :=
  says_ask fun result => inContainer_run h result

/-- What is no command may be said anywhere. -/
theorem says_other {q : Query} (h : ∀ answer, Exchange.commandLine? ⟨q, answer⟩ = none) :
    (ask q : Program σ q.Answer).Says (InContainer environment) :=
  says_ask fun answer => inContainer_of_no_command (h answer)

theorem says_endProgress_inContainer (token : Option String) :
    (endProgress token : Program σ _).Says (InContainer environment) := by
  cases token with
  | none => exact says_pure _ _
  | some token => exact says_other fun _ => rfl

theorem says_setupImage_inContainer (e : Environment) :
    (e.setupImage : Program σ _).Says (InContainer (some e)) := by
  have hpresent : (e.imagePresent : Program σ _).Says (InContainer (some e)) :=
    (says_engine (e.engine.runs_of_verb "image inspect " rfl e.image)).bind fun result => says_pure _ _
  refine hpresent.bind fun present => ?_
  split
  next =>
      refine (says_other fun _ => rfl).bind fun progress => ?_
      refine (says_engine e.runs_pullCommand).bind fun result => ?_
      refine (says_endProgress_inContainer progress).bind fun _ => ?_
      split <;> exact says_pure _ _
  next => split <;> exact says_pure _ _

/-- Setting an environment up keeps to the engines, and it is one of the engine that was found last. -/
theorem isolated_setUp {log : List Exchange} (h : Isolated log) (settings : EnvironmentSettings) (root : String)
    (host : HostEnv) : (Environment.setUp settings root host : Program σ _).Converses fun said result =>
      Isolated (log ++ said) ∧ ∀ e, result = .ok e → detected? (log ++ said) = some e.engine := by
  refine (isolated_detectEngine h settings.engine).bind ?_
  rintro said detected ⟨hsaid, hdetected⟩
  split
  next =>
      refine ⟨by rwa [List.append_nil], ?_⟩
      rintro _ ⟨⟩
  next engine =>
      refine Program.Converses.bind (says_setupImage_inContainer _) fun said' ready hsaid' => ?_
      have hengine : ∀ e, some (⟨engine, settings, root, host⟩ : Environment) = some e →
          detected? (log ++ said) = some e.engine := by
        rintro _ ⟨⟩
        exact hdetected engine rfl
      have hboth := hsaid.append hengine hsaid'
      rw [List.append_assoc] at hboth
      split
      next =>
          refine ⟨by rwa [List.append_nil], ?_⟩
          rintro _ ⟨⟩
      next =>
          refine ⟨by rwa [List.append_nil], ?_⟩
          rintro _ ⟨⟩
          rw [List.append_nil, ← List.append_assoc, detected?_append, detected?_of_inContainer hsaid', Option.none_or]
          exact hdetected engine rfl

theorem inContainer_removal {engine : Engine} (h : engine = e.engine) (name : String)
    (stopped removed : Except ExecFault CommandOutput) :
    ∀ x ∈ removal engine name stopped removed, InContainer (some e) x := by
  subst h
  exact List.forall_mem_cons.2 ⟨inContainer_run (runs_stopLine _ _) _,
    List.forall_mem_singleton.2 (inContainer_run (runs_removeLine _ _) _)⟩

theorem Started.inContainer {image : String} {starting : List Exchange} {v : Except EnvironmentFault Session}
    (h : Started e.engine image starting v) :
    (∀ x ∈ starting, InContainer (some e) x) ∧ ∀ s, v = .ok s → s.engine = e.engine := by
  have hstart (result : Except ExecFault CommandOutput) :
      InContainer (some e) (.command (startLine e.engine image) result) := inContainer_run (runs_startLine _ _) _
  cases h with
  | running stopped removed result hrunning =>
      refine ⟨List.forall_mem_append.2 ⟨inContainer_removal rfl _ _ _, List.forall_mem_singleton.2 (hstart _)⟩, ?_⟩
      rintro _ ⟨⟩
      rfl
  | failed stopped removed result stopped' removed' reason =>
      refine ⟨List.forall_mem_append.2 ⟨inContainer_removal rfl _ _ _,
        List.forall_mem_cons.2 ⟨hstart _, inContainer_removal rfl _ _ _⟩⟩, ?_⟩
      rintro _ ⟨⟩

theorem Copies.inContainer {s : Session} (hs : s.engine = e.engine) {x : Exchange} (h : Copies s x) :
    InContainer (some e) x := by
  obtain ⟨question, answer⟩ := x
  cases question with
  | run request =>
      apply inContainer_run
      obtain ⟨rest, hexec | hcopy⟩ := h
      · rw [hexec, hs]
        exact e.engine.runs_of_verb "exec " rfl rest
      · rw [hcopy, hs]
        exact e.engine.runs_of_verb "cp " rfl rest
  | _ => exact inContainer_of_no_command rfl

theorem Populated.inContainer {s : Session} (hs : s.engine = e.engine) {paths : ToolPaths} {dir : String}
    {populating : List Exchange} {v : Except EnvironmentFault Unit} (h : Populated s paths dir populating v) :
    ∀ x ∈ populating, InContainer (some e) x :=
  h.forall_mem (fun _ => Copies.inContainer hs) fun _ => inContainer_of_no_command rfl

theorem inContainer_ending (environment : Option Environment) (token : Option String) :
    ∀ x ∈ ending token, InContainer environment x := by
  cases token with
  | none => exact List.forall_mem_nil _
  | some token => exact List.forall_mem_singleton.2 (inContainer_of_no_command rfl)

theorem says_fillCache (e : Environment) (paths : ToolPaths) (dir : String) :
    (e.fillCache paths dir : Program σ _).Says (InContainer (some e)) := by
  refine (converses_fillCache e paths dir).mono ?_
  intro said v h
  cases h with
  | refused hstarting => exact hstarting.inContainer.1
  | copied title message token stopped removed hstarting hpopulating =>
      obtain ⟨hsaid, hs⟩ := hstarting.inContainer
      have hs := hs _ rfl
      refine List.forall_mem_append.2 ⟨List.forall_mem_append.2 ⟨hsaid, ?_⟩,
        List.forall_mem_append.2 ⟨inContainer_removal hs _ _ _, inContainer_ending _ token⟩⟩
      exact List.forall_mem_cons.2 ⟨inContainer_of_no_command rfl, hpopulating.inContainer hs⟩

/-- Fetching documentation out of the image takes commands of the engine alone. -/
theorem says_fetchPluginDocs (e : Environment) (paths : ToolPaths) :
    (e.fetchPluginDocs paths : Program σ _).Says (InContainer (some e)) := by
  have hplace : (e.pluginCacheDir : Program σ _).Says (InContainer (some e)) := by
    refine e.converses_pluginCacheDir.mono ?_
    rintro said dir ⟨result, rfl, -⟩
    exact List.forall_mem_singleton.2 (inContainer_run e.runs_idLine _)
  refine hplace.bind fun place => ?_
  split
  next => exact says_pure _ _
  next dir =>
      refine (says_other fun _ => rfl).bind fun fs => ?_
      split
      next => exact says_pure _ _
      next =>
          refine (says_fillCache e paths dir).bind fun filled => ?_
          split
          next => exact says_pure _ _
          next => exact (says_other fun _ => rfl).bind fun fs => says_pure _ _

end Says

end Container

/-! ### Tools -/

namespace Tool

open Text Container Docs

variable {σ : Type} {r : Runner}

theorem Ran.stays (huses : r.usesEnvironment = true) {executable args : String} {mounts : List String}
    {said : List Exchange} {result : Except ExecFault CommandOutput} (h : Ran r executable args mounts said result) :
    ∀ x ∈ said, InContainer r.environment x := by
  cases h with
  | nowhere => exact List.forall_mem_nil _
  | inContainer e fs name result _ hsome =>
      rw [hsome]
      refine List.forall_mem_cons.2 ⟨inContainer_of_no_command rfl, List.forall_mem_cons.2
        ⟨inContainer_of_no_command rfl, List.forall_mem_singleton.2 ?_⟩⟩
      intro line hline
      obtain rfl := Option.some.inj hline
      exact ⟨e, rfl, e.runs_wrappedArgs fs name _ mounts⟩
  | onHost result hhost => exact absurd (huses.symm.trans hhost) (by decide)

theorem says_runner_run (huses : r.usesEnvironment = true) (executable args : String) (mounts : List String) :
    (r.run executable args mounts : Program σ _).Says (InContainer r.environment) :=
  (converses_runner_run r executable args mounts).mono fun _ _ hran => hran.stays huses

/-- Without the environment that is asked for nothing is run. -/
theorem runner_run_unavailable (huses : r.usesEnvironment = true) (hnone : r.environment = none)
    (executable args : String) (mounts : List String) :
    (r.run executable args mounts : Program σ _) = pure (.error .environmentUnavailable) := by
  simp [Runner.run, huses, hnone]

theorem says_runner_locate (huses : r.usesEnvironment = true) (executable : String) :
    (r.locate executable : Program σ _).Says (InContainer r.environment) := by
  refine (converses_runner_locate r executable).mono ?_
  intro said place h
  cases h with
  | trusted => exact List.forall_mem_nil _
  | path hhost => exact List.forall_mem_nil _
  | found first place hhost => exact absurd (huses.symm.trans hhost) (by decide)
  | listed first second hhost => exact absurd (huses.symm.trans hhost) (by decide)

theorem says_runChecked (huses : r.usesEnvironment = true) (executable args : String) :
    (runChecked r executable args : Program σ _).Says (InContainer r.environment) := by
  refine (says_runner_run huses _ _ _).bind fun result => ?_
  split
  next => exact says_pure _ _
  next => split <;> exact says_pure _ _

theorem says_discoverPaths (huses : r.usesEnvironment = true) :
    (discoverPaths r : Program σ _).Says (InContainer r.environment) := by
  refine (says_runChecked huses _ _).bind fun dump => ?_
  rcases dump with message | dump
  case' error => refine (says_other fun _ => rfl).bind fun _ => ?_
  all_goals
    refine (says_pure _ _).bind fun p => ?_
    refine (says_runChecked huses _ _).bind fun report => ?_
    rcases report with message | report
  case' error.error => refine (says_other fun _ => rfl).bind fun _ => ?_
  case' ok.error => refine (says_other fun _ => rfl).bind fun _ => ?_
  all_goals
    refine (says_pure _ _).bind fun p => ?_
    refine (says_runChecked huses _ _).bind fun listed => ?_
    rcases listed with message | listed <;> exact says_pure _ _

end Tool

namespace Lint

open Text Container Tool

variable {σ : Type} {r : Runner} {settings : LintSettings} {doc : Url}

theorem says_syntaxCheck (huses : r.usesEnvironment = true) (doc : Url) :
    (syntaxCheck r doc : Program σ _).Says (InContainer r.environment) := by
  refine (says_runner_run huses _ _ _).bind fun result => ?_
  split
  next => exact says_pure _ _
  next => split <;> exact says_pure _ _

theorem syntaxCheck_unavailable (huses : r.usesEnvironment = true) (hnone : r.environment = none) (doc : Url) :
    (syntaxCheck r doc : Program σ _) = pure (.error .environmentUnavailable) := by
  rw [syntaxCheck, runner_run_unavailable huses hnone]
  rfl

theorem Linted.stays (huses : r.usesEnvironment = true) {configs : ConfigCache} {said : List Exchange}
    {found : ByFile} (h : Linted r settings configs doc said found) : ∀ x ∈ said, InContainer r.environment x := by
  obtain ⟨fs, config, list, opening, running, closing, result, -, -, -, hopening, hclosing, hran⟩ := h
  exact List.forall_mem_append.2 ⟨inContainer_of_commandLines hopening,
    List.forall_mem_append.2 ⟨hran.stays huses, inContainer_of_commandLines hclosing⟩⟩

theorem completes_lint_unavailable (huses : r.usesEnvironment = true) (hnone : r.environment = none)
    (settings : LintSettings) (doc : Url) (s : LintState) : (lint r settings doc).Completes
      (fun said v _ => commandLines said = [] ∧ v = .error (.exec .environmentUnavailable)) s := by
  refine ((converses_ask .seeFiles).completes s).bind ?_
  rintro seeing fs s₁ ⟨rfl, rfl⟩
  refine (completes_warnListFor _ s₁).bind fun listing list s₂ hlisting => ?_
  refine ((converses_ask (.beginProgress _ _)).completes s₂).bind ?_
  rintro beginning token s₃ ⟨rfl, rfl⟩
  rw [runner_run_unavailable huses hnone]
  refine ((converses_endProgress token).completes s₃).bind ?_
  rintro closing _ s₄ ⟨rfl, rfl⟩
  have hending : commandLines (ending token) = [] := commandLines_ending token
  refine ⟨?_, rfl⟩
  simp only [commandLines_append, hlisting.2, hending]
  rfl

end Lint

end PlaybookServer

/-
Module: PlaybookServer.Proofs.Lint.Findings
Purpose: What the linter and the syntax check find, told by how their one command ended. A tool that cannot be run
  finds nothing, and so does a linter that fails or whose report cannot be read. Besides the command the world is only
  asked for files and told what happens.
Main exports: Ran, Located, reportFindings, syntaxFindings, Linted, Checked, completes_lint, converses_syntaxCheck
-/
import PlaybookServer.Lint.Run
import PlaybookServer.Lint.SyntaxCheck
import PlaybookServer.Proofs.Effect.Alone

namespace PlaybookServer

open Effect

/-! ### Running and finding tools -/

namespace Tool

open Text Container

/-- What is said to run an executable, and how that ended. Without the container environment that is asked for nothing
    is run. -/
inductive Ran (r : Runner) (executable args : String) (mounts : List String) :
    List Exchange → Except ExecFault CommandOutput → Prop where
  | nowhere (huses : r.usesEnvironment = true) (hnone : r.environment = none) :
      Ran r executable args mounts [] (.error .environmentUnavailable)
  | inContainer (e : Environment) (fs : Files.FileView) (name : String) (result : Except ExecFault CommandOutput)
      (huses : r.usesEnvironment = true) (hsome : r.environment = some e) :
      Ran r executable args mounts
        [⟨.seeFiles, fs⟩, ⟨.freshName, name⟩,
          ⟨.run { command := join " " (e.wrappedArgs fs name (joinCommand executable args) mounts)
                  cwd := some r.root }, result⟩] result
  | onHost (result : Except ExecFault CommandOutput) (huses : r.usesEnvironment = false) :
      Ran r executable args mounts [⟨.run (r.withInterpreter (r.resolveExecutable executable) args), result⟩] result

/-- What is said to find an executable, and the place that was found. A container environment is trusted, and so is a
    path; a name is looked for by two commands. -/
inductive Located (r : Runner) (executable : String) : List Exchange → Option String → Prop where
  | trusted (huses : r.usesEnvironment = true) : Located r executable [] (r.environment.map fun _ => executable)
  | path (huses : r.usesEnvironment = false) (hpath : occursIn "/" (r.resolveExecutable executable) = true) :
      Located r executable [] (some (r.resolveExecutable executable))
  | found (first : Except ExecFault CommandOutput) (place : String) (huses : r.usesEnvironment = false)
      (hname : occursIn "/" (r.resolveExecutable executable) = false) (hfound : foundPath? first = some place) :
      Located r executable [.command ("command -v " ++ r.resolveExecutable executable) first] (some place)
  | listed (first second : Except ExecFault CommandOutput) (huses : r.usesEnvironment = false)
      (hname : occursIn "/" (r.resolveExecutable executable) = false) (hfound : foundPath? first = none) :
      Located r executable
        [.command ("command -v " ++ r.resolveExecutable executable) first,
          .command ("whereis " ++ r.resolveExecutable executable) second] (listedPath? second)

variable {σ : Type}

theorem converses_runner_run (r : Runner) (executable args : String) (mounts : List String) :
    (r.run executable args mounts : Program σ _).Converses (Ran r executable args mounts) := by
  unfold Runner.run
  split
  next huses =>
      split
      next hnone => exact .nowhere huses hnone
      next e hsome => exact fun fs name result => .inContainer e fs name result huses hsome
  next huses => exact fun result => .onHost result (by simpa using huses)

theorem converses_runner_locate (r : Runner) (executable : String) :
    (r.locate executable : Program σ _).Converses (Located r executable) := by
  unfold Runner.locate
  split
  next huses => exact .trusted huses
  next huses =>
      have huses : r.usesEnvironment = false := by simpa using huses
      dsimp only
      split
      next hpath => exact .path huses hpath
      next hname =>
          have hname : occursIn "/" (r.resolveExecutable executable) = false := by simpa using hname
          refine (converses_runLine _).bind ?_
          rintro said first rfl
          split
          next place hfound => exact .found first place huses hname hfound
          next hfound =>
              refine (converses_runLine _).bind ?_
              rintro said second rfl
              exact .listed first second huses hname hfound

end Tool

/-! ### The linter -/

namespace Lint

open Text Files Tool

/-- What a run of the linter found. A run has a report if it ended with code 0 or 2; there is nothing in one that
    cannot be read. -/
def reportFindings (warnList : WarnList) (root : String) : Except ExecFault CommandOutput → ByFile
  | .error _ => []
  | .ok o => if hasReport o.status then (parseReport o.stdout warnList root).toOption.getD [] else []

/-- The warn list of a configuration, read from the files that were seen unless it was read before. -/
def IsWarnList (configs : ConfigCache) (config : ConfigChoice) (said : List Exchange) (list : WarnList) : Prop :=
  match config.path with
  | none => list = []
  | some path => ∃ fs, ⟨.seeFiles, fs⟩ ∈ said ∧ list = (configs.get fs path).1

theorem IsWarnList.mono {configs : ConfigCache} {config : ConfigChoice} {said said' : List Exchange}
    {list : WarnList} (h : IsWarnList configs config said list) (hsub : said ⊆ said') :
    IsWarnList configs config said' list := by
  unfold IsWarnList at h ⊢
  split
  next hnone =>
      rw [hnone] at h
      exact h
  next path hsome =>
      rw [hsome] at h
      obtain ⟨fs, hseen, hlist⟩ := h
      exact ⟨fs, hsub hseen, hlist⟩

/-- What is said to lint a document, and what is found. -/
inductive Linted (r : Runner) (settings : LintSettings) (configs : ConfigCache) (doc : Url) :
    List Exchange → ByFile → Prop where
  | intro (fs : Files.FileView) (config : ConfigChoice) (list : WarnList) (opening running closing : List Exchange)
      (result : Except ExecFault CommandOutput)
      (hconfig : config = chooseConfig fs settings.arguments (uriToPath doc) r.root)
      (hseen : ⟨.seeFiles, fs⟩ ∈ opening) (hlist : IsWarnList configs config opening list)
      (hopening : commandLines opening = []) (hclosing : commandLines closing = [])
      (hran : Ran r settings.path (lintArguments settings config (uriToPath doc))
        (lintMounts config (uriToPath doc) r.root) running result) :
      Linted r settings configs doc (opening ++ (running ++ closing)) (reportFindings list r.root result)

theorem Linted.append {r : Runner} {settings : LintSettings} {configs : ConfigCache} {doc : Url}
    {said more : List Exchange} {found : ByFile} (h : Linted r settings configs doc said found)
    (hmore : commandLines more = []) : Linted r settings configs doc (said ++ more) found := by
  obtain ⟨fs, config, list, opening, running, closing, result, hconfig, hseen, hlist, hopening, hclosing, hran⟩ := h
  rw [List.append_assoc, List.append_assoc]
  refine .intro fs config list opening running (closing ++ more) result hconfig hseen hlist hopening ?_ hran
  rw [commandLines_append, hclosing, hmore, List.append_nil]

theorem completes_warnListFor (config : ConfigChoice) (s : LintState) :
    (warnListFor config).Completes
      (fun said list _ => IsWarnList s.configs config said list ∧ commandLines said = []) s := by
  unfold warnListFor
  split
  next hnone => exact ⟨by rw [IsWarnList, hnone], rfl⟩
  next path hsome =>
      refine ((converses_ask .seeFiles).completes s).bind ?_
      rintro said fs s' ⟨rfl, rfl⟩
      refine (completes_changing _ s').bind ?_
      rintro said ⟨list, fault⟩ s'' ⟨rfl, hget, -⟩
      have hlist : list = (s'.configs.get fs path).1 := congrArg Prod.fst hget
      have hkept (said : List Exchange) : IsWarnList s'.configs config ([⟨.seeFiles, fs⟩] ++ said) list := by
        rw [IsWarnList, hsome]
        exact ⟨fs, List.mem_cons_self, hlist⟩
      cases fault with
      | none => exact ⟨hkept _, rfl⟩
      | some message => exact fun _ => ⟨hkept _, rfl⟩

theorem completes_readReport (tool stdout : String) (list : WarnList) (root : String) (s : LintState) :
    (readReport tool stdout list root).Completes (fun said found _ =>
      found = (parseReport stdout list root).toOption.getD [] ∧ commandLines said = []) s := by
  unfold readReport
  cases hparse : parseReport stdout list root with
  | ok found => exact ⟨rfl, rfl⟩
  | error e =>
      refine (completes_changing _ s).bind ?_
      rintro said shown s' ⟨rfl, rfl, rfl⟩
      split
      next => exact ⟨rfl, rfl⟩
      next => exact fun _ => ⟨rfl, rfl⟩

theorem commandLines_ending (token : Option String) : commandLines (ending token) = [] := by
  cases token <;> rfl

theorem completes_lint (r : Runner) (settings : LintSettings) (doc : Url) (s : LintState) :
    (lint r settings doc).Completes
      (fun said v _ => Linted r settings s.configs doc said (v.toOption.getD [])) s := by
  refine ((converses_ask .seeFiles).completes s).bind ?_
  rintro seeing fs s₁ ⟨rfl, rfl⟩
  refine (completes_warnListFor _ s₁).bind fun listing list s₂ hlisting => ?_
  refine ((converses_ask (.beginProgress _ _)).completes s₂).bind ?_
  rintro beginning token s₃ ⟨rfl, rfl⟩
  refine ((converses_runner_run r _ _ _).completes s₃).bind ?_
  rintro running result s₄ ⟨hran, rfl⟩
  refine ((converses_endProgress token).completes s₄).bind ?_
  rintro closing _ s₅ ⟨rfl, rfl⟩
  -- the command stands between what is asked before it and what is told after it
  have hlinted (telling : List Exchange) (htelling : commandLines telling = []) :
      Linted r settings s₁.configs doc
        ([⟨.seeFiles, fs⟩] ++ (listing ++ ([⟨.beginProgress "Ansible Lint" "Processing files...", token⟩] ++
          (running ++ (ending token ++ telling))))) (reportFindings list r.root result) := by
    have hopening : commandLines ([⟨.seeFiles, fs⟩] ++ listing ++
        [⟨.beginProgress "Ansible Lint" "Processing files...", token⟩]) = [] := by
      rw [commandLines_append, commandLines_append, hlisting.2]
      rfl
    have hclosing : commandLines (ending token ++ telling) = [] :=
      (commandLines_append _ _).trans (List.append_eq_nil_iff.2 ⟨commandLines_ending token, htelling⟩)
    have hlist : IsWarnList s₁.configs (chooseConfig fs settings.arguments (uriToPath doc) r.root)
        ([⟨.seeFiles, fs⟩] ++ listing ++ [⟨.beginProgress "Ansible Lint" "Processing files...", token⟩]) list :=
      hlisting.1.mono fun _ hmem => List.mem_append_left _ (List.mem_append_right _ hmem)
    have h := Linted.intro fs _ list _ running _ result rfl (by simp) hlist hopening hclosing hran
    simpa only [List.append_assoc] using h
  rcases result with f | o
  · exact hlinted [] rfl
  · have hfound := hlinted
    dsimp only [reportFindings] at hfound
    dsimp only
    split
    next hreport =>
        simp only [if_pos hreport] at hfound
        refine (completes_readReport _ _ _ _ s₅).bind ?_
        rintro telling found s₆ ⟨rfl, htelling⟩
        have h := hfound (telling ++ []) (by rw [commandLines_append, htelling]; rfl)
        exact h
    next hreport =>
        simp only [if_neg hreport] at hfound
        exact hfound [] rfl

/-! ### The syntax check -/

/-- What a syntax check of a document found: nothing if it could not be run. -/
def syntaxFindings (doc : Url) (root : String) : Except ExecFault CommandOutput → ByFile
  | .error _ => []
  | .ok o =>
    if o.success then []
    else [((syntaxDiagnostic o.stderr doc root).1, [(syntaxDiagnostic o.stderr doc root).2])]

/-- What is said to check the syntax of a document, and what is found. -/
inductive Checked (r : Runner) (doc : Url) : List Exchange → ByFile → Prop where
  | intro (said : List Exchange) (result : Except ExecFault CommandOutput)
      (hran : Ran r "ansible-playbook" (quote (uriToPath doc) ++ " --syntax-check") (parent? (uriToPath doc)).toList
        said result) : Checked r doc said (syntaxFindings doc r.root result)

theorem converses_syntaxCheck {σ : Type} (r : Runner) (doc : Url) :
    (syntaxCheck r doc : Program σ _).Converses fun said v => Checked r doc said (v.toOption.getD []) := by
  refine (converses_runner_run r _ _ _).bind fun said result hran => ?_
  have hchecked : Checked r doc (said ++ []) (syntaxFindings doc r.root result) := by
    rw [List.append_nil]
    exact .intro said result hran
  rcases result with f | o
  · exact hchecked
  · dsimp only [syntaxFindings] at hchecked ⊢
    split
    next hsuccess =>
        rw [if_pos hsuccess] at hchecked
        exact hchecked
    next hfailure =>
        rw [if_neg hfailure] at hchecked
        exact hchecked

end Lint

end PlaybookServer

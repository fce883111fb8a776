/-
Module: PlaybookServer.Proofs.Workspace.FullPass
Purpose: What the tools find for a document is a map in the order of the files' addresses, each file once, and
  while they look nothing is published. This holds for everything the tools may answer: what a report says, how
  a command ends, which container engine there is.
Main exports: within_executionEnvironment, within_runner, within_lint, within_fullPass
-/
import PlaybookServer.Proofs.Diagnostic.Table
import PlaybookServer.Proofs.Tool.Commands
import PlaybookServer.Workspace.Context

namespace PlaybookServer

open Effect

/-! ### Reports -/

namespace Lint

theorem foldl_add_ordered (found : List (Url × Diagnostic)) {m : ByFile} (h : m.Ordered) :
    (found.foldl (fun (m : ByFile) (e : Url × Diagnostic) => m.add e.1 [e.2]) m).Ordered := by
  induction found generalizing m with
  | nil => exact h
  | cons e found ih => exact ih (h.add e.1 [e.2])

theorem parseReport_ordered {stdout : String} {warnList : WarnList} {dir : String} {found : ByFile}
    (h : parseReport stdout warnList dir = .ok found) : found.Ordered := by
  unfold parseReport at h
  split at h
  next =>
      injection h with h
      exact h ▸ ByFile.Ordered.nil
  next =>
      cases hread : Json.ofTextWith (Json.readListOf readFinding) stdout with
      | error e => simp [hread, Except.map] at h
      | ok findings =>
          simp only [hread, Except.map, Except.ok.injEq] at h
          exact h ▸ foldl_add_ordered _ ByFile.Ordered.nil

end Lint

/-! ### The tools -/

namespace Lint

open Tool

theorem quiet_warnListFor (config : ConfigChoice) : (warnListFor config).Quiet := by
  unfold warnListFor
  split
  next => trivial
  next path _ =>
      refine (within_ask trivial).bind fun fs _ => ?_
      refine (within_changing trivial).bind fun answer _ => ?_
      rcases answer with ⟨list, _ | message⟩
      · trivial
      · exact (within_ask trivial).bind fun _ _ => trivial

/-- What is read from a report is in order, and so is nothing. -/
theorem within_readReport (tool stdout : String) (warnList : WarnList) (root : String) :
    (readReport tool stdout warnList root).Within Act.Quiet ByFile.Ordered := by
  unfold readReport
  split
  next found hfound => exact parseReport_ordered hfound
  next =>
      refine (within_changing trivial).bind fun shown _ => ?_
      split
      next => exact ByFile.Ordered.nil
      next => exact (within_ask trivial).bind fun _ _ => ByFile.Ordered.nil

/-- The findings of a run, if there are any, are in order. -/
def FoundOrdered {ε : Type} (result : Except ε ByFile) : Prop := ∀ found, result = .ok found → found.Ordered

theorem within_lint (r : Runner) (settings : LintSettings) (doc : Url) :
    (lint r settings doc).Within Act.Quiet FoundOrdered := by
  refine (within_ask trivial).bind fun fs _ => ?_
  refine (quiet_warnListFor _).bind fun warnList _ => ?_
  refine (within_ask trivial).bind fun progress _ => ?_
  refine (outward_runner_run r _ _ _).quiet.bind fun result _ => ?_
  refine (outward_endProgress progress).quiet.bind fun _ _ => ?_
  split
  next => exact nofun
  next o =>
      split
      next =>
          refine (within_readReport _ _ _ _).bind fun found hfound => ?_
          rintro _ ⟨⟩
          exact hfound
      next => exact nofun

theorem within_syntaxCheck (r : Runner) (doc : Url) :
    (syntaxCheck r doc : Program Workspace.Context _).Within Act.Quiet FoundOrdered := by
  refine (outward_runner_run r _ _ _).quiet.bind fun result _ => ?_
  split
  next => exact nofun
  next o =>
      split
      next =>
          rintro _ ⟨⟩
          exact ByFile.Ordered.nil
      next =>
          rintro _ ⟨⟩
          exact ByFile.Ordered.nil.add _ _

end Lint

/-! ### A full pass -/

namespace Workspace

open Tool Lint

theorem outward_setUpEnvironment (settings : Settings) : (setUpEnvironment settings).Outward := by
  refine (within_look _).bind fun place _ => ?_
  refine (Container.Environment.outward_setUp _ _ _).bind fun result _ => ?_
  split
  next => trivial
  next => exact (within_ask trivial).bind fun _ _ => trivial

section Environment

variable {allowed : Act Context → Prop} (hask : ∀ q : Query, q.PublishesNothing → allowed (.ask q))
  (hchange : ∀ f : Deferred (Option Container.Environment) → Deferred (Option Container.Environment),
    allowed (.change fun c => { c with environment := f c.environment }))

include hask hchange

/-- To have the container environment, the world is asked quietly and nothing else is changed. -/
theorem within_executionEnvironment : executionEnvironment.Within allowed fun _ => True := by
  refine (within_look _).bind fun settings _ => ?_
  split
  next => trivial
  next => exact within_getOrBuild ((outward_setUpEnvironment settings).within hask) hchange

theorem within_runner : runner.Within allowed fun _ => True :=
  (within_executionEnvironment hask hchange).bind fun _ _ => within_look _

end Environment

theorem within_checkPlaybook (r : Runner) (doc : Url) (text : String) :
    (checkPlaybook r doc text).Within Act.Quiet ByFile.Ordered := by
  unfold checkPlaybook
  split
  next => exact ByFile.Ordered.nil
  next =>
      refine (within_syntaxCheck r doc).bind fun result hresult => ?_
      split
      next found => exact hresult found rfl
      next => exact ByFile.Ordered.nil

theorem quiet_reportMissing (tool : String) : (reportMissing tool).Quiet := by
  refine (within_changing trivial).bind fun shown _ => ?_
  split
  next => trivial
  next => exact within_ask trivial

/-- A full pass publishes nothing, and what it finds is in the order of the files' addresses, each file once. -/
theorem within_fullPass (doc : Url) (text : String) :
    (fullPass doc text).Within Act.Quiet ByFile.Ordered := by
  refine (within_look _).bind fun settings _ => ?_
  refine (within_runner (fun _ hq => hq) fun _ => trivial).bind fun r _ => ?_
  split
  next => exact within_checkPlaybook r doc text
  next =>
      refine (outward_runner_locate r _).quiet.bind fun place _ => ?_
      split
      next => exact (quiet_reportMissing _).bind fun _ _ => ByFile.Ordered.nil
      next =>
          have hlint : (runLint r settings doc).Within Act.Quiet FoundOrdered :=
            Program.within_zoom (within_lint r settings doc) (fun _ hq => hq) fun _ _ => trivial
          refine hlint.bind fun result hresult => ?_
          split
          next found => exact hresult found rfl
          next => exact (within_ask trivial).bind fun _ _ => ByFile.Ordered.nil

/-- A full pass takes the settings as they are. -/
theorem spares_settings_fullPass (doc : Url) (text : String) : (fullPass doc text).Spares Context.settings := by
  refine (within_look _).bind fun settings _ => ?_
  refine (within_runner (fun _ _ => trivial) fun _ _ => rfl).bind fun r _ => ?_
  split
  next =>
      unfold checkPlaybook
      split
      next => trivial
      next =>
          have hcheck : (syntaxCheck r doc : Program Context _).Outward := by
            refine (outward_runner_run r _ _ _).bind fun result _ => ?_
            split
            next => trivial
            next => split <;> trivial
          refine (hcheck.spares _).bind fun result _ => ?_
          split <;> trivial
  next =>
      refine ((outward_runner_locate r _).spares _).bind fun place _ => ?_
      split
      next =>
          have htold : (reportMissing settings.path).Spares Context.settings := by
            refine (within_changing fun _ => rfl).bind fun shown _ => ?_
            split
            next => trivial
            next => exact within_ask trivial
          exact htold.bind fun _ _ => trivial
      next =>
          have hlint : (runLint r settings doc).Spares Context.settings :=
            Program.within_zoom (Program.within_anything _) (fun _ _ => trivial) fun _ _ _ => rfl
          refine hlint.bind fun result _ => ?_
          split
          next => trivial
          next => exact (within_ask trivial).bind fun _ _ => trivial

end Workspace

end PlaybookServer

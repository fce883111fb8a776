/-
Module: PlaybookServer.Proofs.Container.SetUp
Purpose: What the user hears while a container environment is set up: nothing, unless it fails, and then one message
  says so. An environment that is set up is one for the settings it was asked for with.
Main exports: shown, converses_setUp, converses_setUpEnvironment
-/
import PlaybookServer.Proofs.Effect.Conversation
import PlaybookServer.Workspace.Context

namespace PlaybookServer

open Effect

namespace Effect

/-- The message that a question shows to the user. -/
def Exchange.shown? (x : Exchange) : Option String :=
  match x.question with
  | .showError message => some message
  | _ => none

/-- The messages shown in a conversation, in order. -/
def shown (said : List Exchange) : List String := said.filterMap Exchange.shown?

theorem shown_append (said said' : List Exchange) : shown (said ++ said') = shown said ++ shown said' :=
  List.filterMap_append

/-- Nothing is shown. -/
def Exchange.Unseen (x : Exchange) : Prop := x.shown? = none

theorem shown_of_unseen {said : List Exchange} (h : ∀ x ∈ said, x.Unseen) : shown said = [] :=
  List.filterMap_eq_nil_iff.2 h

theorem says_endProgress {σ : Type} (token : Option String) :
    (endProgress token : Program σ _).Says Exchange.Unseen := by
  cases token with
  | none => exact says_pure _ _
  | some token => exact says_ask fun _ => rfl

end Effect

namespace Container

open Tool

variable {σ : Type}

theorem says_locateExecutable (name : String) : (locateExecutable name : Program σ _).Says Exchange.Unseen := by
  refine (says_ask fun _ => rfl).bind fun first => ?_
  split
  next => exact says_pure _ _
  next => exact (says_ask fun _ => rfl).bind fun second => says_pure _ _

theorem says_detectEngine (choice : EngineChoice) : (detectEngine choice : Program σ _).Says Exchange.Unseen := by
  have hinstalled (engines : List Engine) : (firstInstalled engines : Program σ _).Says Exchange.Unseen := by
    induction engines with
    | nil => exact says_pure _ _
    | cons e rest ih =>
        refine (says_locateExecutable e.name).bind fun place => ?_
        split
        next => exact says_pure _ _
        next => exact ih
  refine (hinstalled _).bind fun engine => ?_
  split <;> exact says_pure _ _

namespace Environment

theorem says_setupImage (e : Environment) : (e.setupImage : Program σ _).Says Exchange.Unseen := by
  have hpresent : (e.imagePresent : Program σ _).Says Exchange.Unseen :=
    (says_ask fun _ => rfl).bind fun result => says_pure _ _
  refine hpresent.bind fun present => ?_
  split
  next =>
      refine (says_ask fun _ => rfl).bind fun progress => ?_
      refine (says_ask fun _ => rfl).bind fun result => ?_
      refine (says_endProgress progress).bind fun _ => ?_
      split <;> exact says_pure _ _
  next => split <;> exact says_pure _ _

/-- Setting an environment up shows nothing, and gives one for the settings it was asked for with. -/
theorem converses_setUp (settings : EnvironmentSettings) (root : String) (host : HostEnv) :
    (setUp settings root host : Program σ _).Converses fun said result =>
      shown said = [] ∧ ∀ e, result = .ok e → e.settings = settings := by
  refine Program.Converses.bind (says_detectEngine settings.engine) fun said detected hsaid => ?_
  split
  next =>
      refine ⟨shown_of_unseen (List.forall_mem_append.2 ⟨hsaid, List.forall_mem_nil _⟩), ?_⟩
      rintro _ ⟨⟩
  next engine =>
      refine Program.Converses.bind (says_setupImage _) fun said' ready hsaid' => ?_
      have hunseen := List.forall_mem_append.2 ⟨hsaid, List.forall_mem_append.2 ⟨hsaid', List.forall_mem_nil _⟩⟩
      split
      next =>
          refine ⟨shown_of_unseen hunseen, ?_⟩
          rintro _ ⟨⟩
      next =>
          refine ⟨shown_of_unseen hunseen, ?_⟩
          rintro _ ⟨⟩
          rfl

end Environment

end Container

namespace Workspace

open Container

/-- What the user hears while an environment is set up, and what comes of it. -/
def SetUpTold (settings : Settings) (said : List Exchange) : Option Environment → Prop
  | some e => e.settings = settings.environment ∧ shown said = []
  | none => ∃ f : EnvironmentFault,
    shown said = [f.text ++ ". The execution environment is disabled for this session."]

/-- Setting an environment up shows one message if it fails, and none otherwise. -/
theorem converses_setUpEnvironment (settings : Settings) :
    (setUpEnvironment settings).Converses (SetUpTold settings) := by
  refine (converses_look _).bind fun _ place h => ?_
  subst h
  refine (Environment.converses_setUp settings.environment place.1 place.2).bind fun said result hresult => ?_
  obtain ⟨hshown, hsettings⟩ := hresult
  split
  next e =>
      refine ⟨hsettings e rfl, ?_⟩
      rw [List.nil_append, List.append_nil, hshown]
  next f =>
      intro _
      refine ⟨f, ?_⟩
      rw [List.nil_append, shown_append, hshown]
      rfl

end Workspace

end PlaybookServer

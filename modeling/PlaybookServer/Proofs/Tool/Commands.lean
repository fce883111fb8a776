/-
Module: PlaybookServer.Proofs.Tool.Commands
Purpose: Running commands is work on the world alone. Looking for an engine, setting up a container, copying out
  of it, running a tool and asking the tools for their paths publish nothing and leave the server's state as it
  is, whatever the commands answer.
Main exports: outward_setUp, outward_fetchPluginDocs, outward_runner_run, outward_discoverPaths
-/
import PlaybookServer.Container.Environment
import PlaybookServer.Proofs.Effect.Program
import PlaybookServer.Tool.Discovery

namespace PlaybookServer

open Effect

variable {σ : Type}

theorem outward_endProgress (token : Option String) : (endProgress token : Program σ _).Outward := by
  cases token with
  | none => trivial
  | some token => exact within_ask trivial

namespace Tool

theorem outward_runLine (command : String) : (runLine command : Program σ _).Outward :=
  within_ask trivial

theorem outward_locateExecutable (name : String) : (locateExecutable name : Program σ _).Outward := by
  refine (outward_runLine _).bind fun first _ => ?_
  split
  next => trivial
  next => exact (outward_runLine _).bind fun second _ => trivial

end Tool

/-! ### Containers -/

namespace Container

open Tool

theorem outward_firstInstalled (engines : List Engine) :
    (firstInstalled engines : Program σ _).Outward := by
  induction engines with
  | nil => trivial
  | cons e rest ih =>
      refine (outward_locateExecutable e.name).bind fun place _ => ?_
      split
      next => trivial
      next => exact ih

theorem outward_detectEngine (choice : EngineChoice) : (detectEngine choice : Program σ _).Outward := by
  refine (outward_firstInstalled _).bind fun engine _ => ?_
  split <;> trivial

theorem outward_removeContainer (engine : Engine) (name : String) :
    (removeContainer engine name : Program σ _).Outward :=
  (outward_runLine _).bind fun _ _ => (outward_runLine _).bind fun _ _ => trivial

namespace Session

theorem outward_start (engine : Engine) (image : String) : (start engine image : Program σ _).Outward := by
  refine (outward_removeContainer engine _).bind fun _ _ => ?_
  refine (outward_runLine _).bind fun result _ => ?_
  split
  next => trivial
  next => exact (outward_removeContainer engine _).bind fun _ _ => trivial

theorem outward_pathExists (s : Session) (path : String) : (s.pathExists path : Program σ _).Outward :=
  (outward_runLine _).bind fun _ _ => trivial

theorem outward_copyOut (s : Session) (src dest : String) : (s.copyOut src dest : Program σ _).Outward := by
  refine (outward_runLine _).bind fun result _ => ?_
  split
  next => trivial
  next => split <;> trivial

end Session

theorem outward_copyPath (s : Session) (dir src probe : String) :
    (copyPath s dir src probe : Program σ _).Outward := by
  unfold copyPath
  split
  next => trivial
  next =>
      refine (within_ask trivial).bind fun fs _ => ?_
      split
      next => trivial
      next =>
          refine (s.outward_pathExists probe).bind fun found _ => ?_
          split
          next => trivial
          next =>
              split
              next => trivial
              next parent _ =>
                  refine (within_ask trivial).bind fun made _ => ?_
                  split
                  next => trivial
                  next => exact (s.outward_copyOut src parent).bind fun _ _ => trivial

theorem outward_copyPaths (s : Session) (dir : String) (paths : List (String × String)) :
    (copyPaths s dir paths : Program σ _).Outward := by
  induction paths with
  | nil => trivial
  | cons path rest ih => exact (outward_copyPath s dir path.1 path.2).bind fun _ _ => ih

theorem outward_populate (s : Session) (paths : Docs.ToolPaths) (dir : String) :
    (populate s paths dir : Program σ _).Outward := by
  refine (within_ask trivial).bind fun made _ => ?_
  split
  next => trivial
  next =>
      refine (outward_copyPaths s dir _).bind fun _ _ => ?_
      refine (outward_copyPaths s dir _).bind fun _ _ => ?_
      refine (outward_copyPaths s dir _).bind fun _ _ => ?_
      rcases paths.toolLocation with _ | location
      all_goals dsimp only
      case' some =>
        -- With the list in sight, checking this step would run the copy.
        generalize [(withoutSlashes location ++ "/config", withoutSlashes location ++ "/config")] = probes
        refine (outward_copyPaths s dir probes).bind fun _ _ => ?_
      all_goals
        refine (within_ask trivial).bind fun written _ => ?_
        split <;> trivial

namespace Environment

theorem outward_setupImage (e : Environment) : (e.setupImage : Program σ _).Outward := by
  have hpresent : (e.imagePresent : Program σ _).Outward := (outward_runLine _).bind fun result _ => trivial
  refine hpresent.bind fun present _ => ?_
  split
  next =>
      refine (within_ask trivial).bind fun progress _ => ?_
      refine (outward_runLine _).bind fun result _ => ?_
      refine (outward_endProgress progress).bind fun _ _ => ?_
      split <;> trivial
  next => split <;> trivial

theorem outward_setUp (settings : EnvironmentSettings) (root : String) (host : HostEnv) :
    (setUp settings root host : Program σ _).Outward := by
  refine (outward_detectEngine _).bind fun detected _ => ?_
  split
  next => trivial
  next =>
      refine (outward_setupImage _).bind fun ready _ => ?_
      split <;> trivial

theorem outward_pluginCacheDir (e : Environment) : (e.pluginCacheDir : Program σ _).Outward := by
  have hid : (e.imageId : Program σ _).Outward := by
    refine (outward_runLine _).bind fun result _ => ?_
    split
    next => trivial
    next =>
        split
        next => split <;> trivial
        next => trivial
  refine hid.bind fun id _ => ?_
  split <;> trivial

theorem outward_fillCache (e : Environment) (paths : Docs.ToolPaths) (dir : String) :
    (e.fillCache paths dir : Program σ _).Outward := by
  refine (Session.outward_start _ _).bind fun started _ => ?_
  split
  next => trivial
  next session =>
      refine (within_ask trivial).bind fun progress _ => ?_
      refine (outward_populate session paths dir).bind fun populated _ => ?_
      refine (outward_removeContainer _ _).bind fun _ _ => ?_
      exact (outward_endProgress progress).bind fun _ _ => trivial

theorem outward_fetchPluginDocs (e : Environment) (paths : Docs.ToolPaths) :
    (e.fetchPluginDocs paths : Program σ _).Outward := by
  refine (outward_pluginCacheDir e).bind fun place _ => ?_
  split
  next => trivial
  next dir =>
      refine (within_ask trivial).bind fun fs _ => ?_
      split
      next => trivial
      next =>
          refine (outward_fillCache e paths dir).bind fun filled _ => ?_
          split
          next => trivial
          next => exact (within_ask trivial).bind fun fs _ => trivial

theorem outward_wrapCommand (e : Environment) (command : String) (mounts : List String) :
    (e.wrapCommand command mounts : Program σ _).Outward := by
  refine (within_ask trivial).bind fun fs _ => ?_
  exact (within_ask trivial).bind fun name _ => trivial

end Environment

end Container

/-! ### Tools -/

namespace Tool

theorem outward_runner_run (r : Runner) (executable args : String) (mounts : List String) :
    (r.run executable args mounts : Program σ _).Outward := by
  unfold Runner.run
  split
  next =>
      split
      next => trivial
      next e _ => exact (e.outward_wrapCommand _ _).bind fun command _ => within_ask trivial
  next => exact within_ask trivial

theorem outward_runner_locate (r : Runner) (executable : String) :
    (r.locate executable : Program σ _).Outward := by
  unfold Runner.locate
  split
  next => trivial
  next =>
      dsimp only
      split
      next => trivial
      next => exact outward_locateExecutable _

theorem outward_runChecked (r : Runner) (executable args : String) :
    (runChecked r executable args : Program σ _).Outward := by
  refine (outward_runner_run r _ _ _).bind fun result _ => ?_
  split
  next => trivial
  next => split <;> trivial

theorem outward_discoverPaths (r : Runner) : (discoverPaths r : Program σ _).Outward := by
  refine (outward_runChecked r _ _).bind fun dump _ => ?_
  rcases dump with message | dump
  case' error => refine (within_ask trivial).bind fun _ _ => ?_
  all_goals
    refine (Program.within_pure _).bind fun p _ => ?_
    refine (outward_runChecked r _ _).bind fun report _ => ?_
    rcases report with message | report
  case' error.error => refine (within_ask trivial).bind fun _ _ => ?_
  case' ok.error => refine (within_ask trivial).bind fun _ _ => ?_
  all_goals
    refine (Program.within_pure _).bind fun p _ => ?_
    refine (outward_runChecked r _ _).bind fun listed _ => ?_
    rcases listed with message | listed <;> trivial

end Tool

end PlaybookServer

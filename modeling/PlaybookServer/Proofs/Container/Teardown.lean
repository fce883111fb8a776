/-
Module: PlaybookServer.Proofs.Container.Teardown
Purpose: What is said while documentation is fetched out of an image. The image is asked for its id, and a complete
  cache is used as it is. Otherwise one container is started, asked for paths and copied from, and removed at the
  very end, however the commands end and whatever the file system refuses. The mark of a complete cache is written
  after every path was tried and before the removal, and never by a call that fails.
Main exports: Started, Copies, TriedEach, Populated, Filled, FromContainer, Fetched, fetch_removes_container
-/
import Mathlib.Data.List.Basic
import PlaybookServer.Container.Environment
import PlaybookServer.Proofs.Effect.Conversation

namespace PlaybookServer

namespace Text

theorem startsWith_append (front cs stem : List Char) :
    startsWith (front ++ cs) (front ++ stem) = startsWith cs stem := by
  induction front with
  | nil => rfl
  | cons c front ih => simpa [startsWith, stripStem?] using ih

theorem startsWith_self (stem cs : List Char) : startsWith (stem ++ cs) stem = true := by
  simpa [startsWith, stripStem?] using startsWith_append stem cs []

end Text

namespace Container

open Text Files Effect Docs Tool

variable {σ : Type}

/-! ### Command lines -/

/-- Stopping a container. -/
def stopLine (engine : Engine) (name : String) : String := engine.name ++ " stop " ++ name

/-- Removing a container. -/
def removeLine (engine : Engine) (name : String) : String := engine.name ++ " rm -f " ++ name

/-- Starting a container of an image, under a name made from the image. -/
def startLine (engine : Engine) (image : String) : String :=
  engine.name ++ " run -i --rm -d --name " ++ sanitizeName image ++ " " ++ image ++ " bash"

/-- Whether a command runs a container. -/
def isRunLine (engine : Engine) (line : String) : Bool := hasStem line (engine.name ++ " run ")

/-- A command of an engine other than `run` runs no container. -/
theorem isRunLine_append (engine : Engine) (verb rest : String) :
    isRunLine engine (engine.name ++ verb ++ rest) = startsWith (verb.toList ++ rest.toList) " run ".toList := by
  simp only [isRunLine, hasStem, String.toList_append, List.append_assoc, startsWith_append]

theorem isRunLine_stopLine (engine : Engine) (name : String) : isRunLine engine (stopLine engine name) = false :=
  isRunLine_append engine " stop " name

theorem isRunLine_removeLine (engine : Engine) (name : String) :
    isRunLine engine (removeLine engine name) = false :=
  isRunLine_append engine " rm -f " name

theorem isRunLine_startLine (engine : Engine) (image : String) :
    isRunLine engine (startLine engine image) = true := by
  have hverb : startLine engine image = engine.name ++ " run " ++
      ("-i --rm -d --name " ++ sanitizeName image ++ " " ++ image ++ " bash") := by
    rw [startLine, show " run -i --rm -d --name " = " run " ++ "-i --rm -d --name " from rfl]
    simp only [String.append_assoc]
  rw [hverb, isRunLine_append]
  exact startsWith_self _ _

/-- The lines that remove the container of an image. -/
def removalLines (engine : Engine) (image : String) : List String :=
  [stopLine engine (sanitizeName image), removeLine engine (sanitizeName image)]

/-- What is said to remove a container. -/
def removal (engine : Engine) (name : String) (stopped removed : Except ExecFault CommandOutput) : List Exchange :=
  [.command (stopLine engine name) stopped, .command (removeLine engine name) removed]

theorem converses_removeContainer (engine : Engine) (name : String) :
    (removeContainer engine name : Program σ _).Converses fun said _ =>
      ∃ stopped removed, said = removal engine name stopped removed := by
  refine (converses_runLine _).bind fun _ stopped h => ?_
  refine (converses_runLine _).bind fun _ removed h' => ?_
  exact ⟨stopped, removed, by rw [h, h']; rfl⟩

/-! ### Starting -/

/-- What is said to start a container: one of the same name is removed first, and one that does not start is
    removed again. -/
inductive Started (engine : Engine) (image : String) : List Exchange → Except EnvironmentFault Session → Prop where
  | running (stopped removed result : Except ExecFault CommandOutput) (h : failure? result = none) :
      Started engine image
        (removal engine (sanitizeName image) stopped removed ++ [.command (startLine engine image) result])
        (.ok ⟨engine, sanitizeName image⟩)
  | failed (stopped removed result stopped' removed' : Except ExecFault CommandOutput) (reason : String) :
      Started engine image
        (removal engine (sanitizeName image) stopped removed ++ .command (startLine engine image) result
          :: removal engine (sanitizeName image) stopped' removed')
        (.error (.containerStart (sanitizeName image) reason))

theorem converses_start (engine : Engine) (image : String) :
    (Session.start engine image : Program σ _).Converses (Started engine image) := by
  refine (converses_removeContainer _ _).bind fun _ _ ⟨stopped, removed, h⟩ => ?_
  refine (converses_runLine _).bind fun _ result h' => ?_
  subst h h'
  split
  next hresult => exact .running stopped removed result hresult
  next reason _ =>
      refine (converses_removeContainer _ _).bind fun _ _ ⟨stopped', removed', h⟩ => ?_
      subst h
      exact .failed stopped removed result stopped' removed' reason

/-! ### Copying -/

/-- What is said to copy out of a container: files are looked at, directories are made, and paths are probed inside
    the container and copied out of it. -/
def Copies (s : Session) (x : Exchange) : Prop :=
  match x.question with
  | .seeFiles | .createDirs _ => True
  | .run request => ∃ rest, request.command = s.engine.name ++ " exec " ++ rest ∨
      request.command = s.engine.name ++ " cp " ++ rest
  | _ => False

/-- Looking for a path inside a container. -/
def probeLine (s : Session) (path : String) : String := s.engine.name ++ " exec " ++ s.name ++ " ls " ++ quote path

/-- Copying a path out of a container into a directory. -/
def copyLine (s : Session) (src dest : String) : String :=
  s.engine.name ++ " cp " ++ s.name ++ ":" ++ src ++ " " ++ quote dest

theorem copies_probe (s : Session) (path : String) (result : Except ExecFault CommandOutput) :
    Copies s (.command (probeLine s path) result) :=
  ⟨s.name ++ " ls " ++ quote path, .inl (by simp only [probeLine, String.append_assoc])⟩

theorem copies_copy (s : Session) (src dest : String) (result : Except ExecFault CommandOutput) :
    Copies s (.command (copyLine s src dest) result) :=
  ⟨s.name ++ ":" ++ src ++ " " ++ quote dest, .inr (by simp only [copyLine, String.append_assoc])⟩

/-- What is said to try a path. An empty path is nothing to copy, and what is cached is not copied again; anything
    else is looked for inside the container and copied if it is there and its directory can be made. -/
inductive Tried (s : Session) (dir src probe : String) : List Exchange → Prop where
  | unnamed (hsrc : src = "") : Tried s dir src probe []
  | cached (files : FileView) (hcached : files.isThere (cachePath dir src) = true) :
      Tried s dir src probe [⟨.seeFiles, files⟩]
  | missing (files : FileView) (looked : Except ExecFault CommandOutput)
      (hcached : files.isThere (cachePath dir src) = false) (hlooked : failure? looked ≠ none) :
      Tried s dir src probe [⟨.seeFiles, files⟩, .command (probeLine s probe) looked]
  | outside (files : FileView) (looked : Except ExecFault CommandOutput)
      (hcached : files.isThere (cachePath dir src) = false) (hlooked : failure? looked = none)
      (hparent : parent? (cachePath dir src) = none) :
      Tried s dir src probe [⟨.seeFiles, files⟩, .command (probeLine s probe) looked]
  | unmade (files : FileView) (looked : Except ExecFault CommandOutput) (parent : String) (fault : IoFault)
      (hcached : files.isThere (cachePath dir src) = false) (hlooked : failure? looked = none)
      (hparent : parent? (cachePath dir src) = some parent) :
      Tried s dir src probe [⟨.seeFiles, files⟩, .command (probeLine s probe) looked,
        ⟨.createDirs parent, .error fault⟩]
  | copied (files : FileView) (looked result : Except ExecFault CommandOutput) (parent : String)
      (hcached : files.isThere (cachePath dir src) = false) (hlooked : failure? looked = none)
      (hparent : parent? (cachePath dir src) = some parent) :
      Tried s dir src probe [⟨.seeFiles, files⟩, .command (probeLine s probe) looked,
        ⟨.createDirs parent, .ok ()⟩, .command (copyLine s src parent) result]

theorem Tried.copies {s : Session} {dir src probe : String} {said : List Exchange} (h : Tried s dir src probe said) :
    ∀ x ∈ said, Copies s x := by
  have hsee (files : FileView) : Copies s ⟨.seeFiles, files⟩ := trivial
  have hmake (parent : String) (answer : Except IoFault Unit) : Copies s ⟨.createDirs parent, answer⟩ := trivial
  cases h <;> simp [hsee, hmake, copies_probe, copies_copy]

/-- What is said to try paths, each with the one to look for inside the container: they are tried one after
    another, and none is passed over. -/
inductive TriedEach (s : Session) (dir : String) : List (String × String) → List Exchange → Prop where
  | nil : TriedEach s dir [] []
  | cons {src probe : String} {rest : List (String × String)} {trying later : List Exchange}
      (hfirst : Tried s dir src probe trying) (hrest : TriedEach s dir rest later) :
      TriedEach s dir ((src, probe) :: rest) (trying ++ later)

theorem TriedEach.copies {s : Session} {dir : String} {list : List (String × String)} {said : List Exchange}
    (h : TriedEach s dir list said) : ∀ x ∈ said, Copies s x := by
  induction h with
  | nil => exact List.forall_mem_nil _
  | cons hfirst _ ih => exact List.forall_mem_append.2 ⟨hfirst.copies, ih⟩

theorem TriedEach.append {s : Session} {dir : String} {first last : List (String × String)}
    {said said' : List Exchange} (h : TriedEach s dir first said) (h' : TriedEach s dir last said') :
    TriedEach s dir (first ++ last) (said ++ said') := by
  induction h with
  | nil => exact h'
  | cons hfirst _ ih =>
      rw [List.append_assoc]
      exact .cons hfirst ih

theorem converses_pathExists (s : Session) (path : String) :
    (s.pathExists path : Program σ _).Converses fun said found =>
      ∃ looked, said = [.command (probeLine s path) looked] ∧ found = (failure? looked).isNone := by
  refine (converses_runLine _).bind fun _ looked h => ?_
  exact ⟨looked, by rw [h]; rfl, rfl⟩

theorem converses_copyOut (s : Session) (src dest : String) :
    (s.copyOut src dest : Program σ _).Converses fun said _ =>
      ∃ result, said = [.command (copyLine s src dest) result] := by
  refine (converses_runLine _).bind fun _ result h => ?_
  subst h
  split
  next => exact ⟨_, rfl⟩
  next => split <;> exact ⟨_, rfl⟩

theorem converses_copyPath (s : Session) (dir src probe : String) :
    (copyPath s dir src probe : Program σ _).Converses fun said _ => Tried s dir src probe said := by
  unfold copyPath
  split
  next hsrc => exact .unnamed hsrc
  next =>
      refine (converses_ask _).bind fun _ files h => ?_
      subst h
      split
      next hcached => exact .cached files hcached
      next hcached =>
          rw [Bool.not_eq_true] at hcached
          refine (converses_pathExists s probe).bind fun _ found h => ?_
          obtain ⟨looked, rfl, rfl⟩ := h
          split
          next hlooked => exact .missing files looked hcached (by simpa [Option.isSome_iff_ne_none] using hlooked)
          next hlooked =>
              have hfound : failure? looked = none := by simpa using hlooked
              split
              next hparent => exact .outside files looked hcached hfound hparent
              next parent hparent =>
                  refine (converses_ask _).bind fun _ made h => ?_
                  subst h
                  split
                  next fault => exact .unmade files looked parent fault hcached hfound hparent
                  next =>
                      refine (converses_copyOut s src parent).bind fun _ _ h => ?_
                      obtain ⟨result, rfl⟩ := h
                      exact .copied files looked result parent hcached hfound hparent

theorem converses_copyPaths (s : Session) (dir : String) (list : List (String × String)) :
    (copyPaths s dir list : Program σ _).Converses fun said _ => TriedEach s dir list said := by
  induction list with
  | nil => exact .nil
  | cons path rest ih =>
      refine (converses_copyPath s dir path.1 path.2).bind fun _ _ hfirst => ?_
      exact ih.mono fun _ _ hrest => .cons hfirst hrest

/-! ### Filling the cache -/

/-- The paths to copy, each with the one to look for inside the container: the collections, the plugins beside the
    modules, the modules, and the configuration of the tool. -/
def copyList (paths : ToolPaths) : List (String × String) :=
  (paths.collectionsPaths.map fun p => (p, withoutSlashes p ++ "/ansible_collections")) ++
    ((paths.moduleLocations.map fun p => (builtinPluginDir p, builtinPluginDir p)) ++
      ((paths.moduleLocations.map fun p => (p, p)) ++
        (paths.toolLocation.map fun p => (withoutSlashes p ++ "/config", withoutSlashes p ++ "/config")).toList))

/-- What is said to fill a cache directory: it is made, each path is tried, and last of all the mark of a
    complete cache is written. Filling succeeds if the mark could be written. -/
inductive Populated (s : Session) (paths : ToolPaths) (dir : String) :
    List Exchange → Except EnvironmentFault Unit → Prop where
  | unmade (fault : IoFault) :
      Populated s paths dir [⟨.createDirs dir, .error fault⟩] (.error (.io fault.text))
  | unmarked (trying : List Exchange) (fault : IoFault) (h : TriedEach s dir (copyList paths) trying) :
      Populated s paths dir
        (⟨.createDirs dir, .ok ()⟩ :: (trying ++ [⟨.write (joinPath dir successMarker) "", .error fault⟩]))
        (.error (.io fault.text))
  | marked (trying : List Exchange) (h : TriedEach s dir (copyList paths) trying) :
      Populated s paths dir
        (⟨.createDirs dir, .ok ()⟩ :: (trying ++ [⟨.write (joinPath dir successMarker) "", .ok ()⟩])) (.ok ())

/-- All that is said to fill a cache directory is of the kind of the copying, apart from the mark. -/
theorem Populated.forall_mem {s : Session} {paths : ToolPaths} {dir : String} {populating : List Exchange}
    {v : Except EnvironmentFault Unit} (h : Populated s paths dir populating v) {kind : Exchange → Prop}
    (hcopies : ∀ x, Copies s x → kind x)
    (hmark : ∀ answer, kind ⟨.write (joinPath dir successMarker) "", answer⟩) : ∀ x ∈ populating, kind x := by
  have hmake (answer : Except IoFault Unit) : kind ⟨.createDirs dir, answer⟩ := hcopies _ trivial
  have hall {trying : List Exchange} {answer : Except IoFault Unit} (htried : TriedEach s dir (copyList paths) trying) :
      ∀ x ∈ (⟨.createDirs dir, .ok ()⟩ : Exchange) ::
        (trying ++ [⟨.write (joinPath dir successMarker) "", answer⟩]), kind x := by
    refine List.forall_mem_cons.2 ⟨hmake _, List.forall_mem_append.2 ⟨?_, List.forall_mem_singleton.2 (hmark _)⟩⟩
    exact fun x hx => hcopies x (htried.copies x hx)
  cases h with
  | unmade fault => exact List.forall_mem_singleton.2 (hmake _)
  | unmarked trying fault htried => exact hall htried
  | marked trying htried => exact hall htried

/-- After the last path the cache is marked complete, unless the mark cannot be written. -/
theorem converses_mark (s : Session) (paths : ToolPaths) (dir : String) {trying : List Exchange}
    (htried : TriedEach s dir (copyList paths) trying) :
    (do match ← ask (.write (joinPath dir successMarker) "") with
        | .error (e : IoFault) => return .error (EnvironmentFault.io e.text)
        | .ok _ => return .ok () : Program σ _).Converses
      fun said v => Populated s paths dir (⟨.createDirs dir, .ok ()⟩ :: (trying ++ said)) v := by
  refine (converses_ask _).bind fun _ written h => ?_
  subst h
  split
  next fault => exact .unmarked trying fault htried
  next => exact .marked trying htried

theorem converses_populate (s : Session) (paths : ToolPaths) (dir : String) :
    (populate s paths dir : Program σ _).Converses (Populated s paths dir) := by
  refine (converses_ask _).bind fun _ made h => ?_
  subst h
  split
  next fault => exact .unmade fault
  next =>
      refine (converses_copyPaths s dir _).bind fun collections _ hcollections => ?_
      refine (converses_copyPaths s dir _).bind fun plugins _ hplugins => ?_
      refine (converses_copyPaths s dir _).bind fun modules _ hmodules => ?_
      have hmark {config : List Exchange}
          (hconfig : TriedEach s dir (paths.toolLocation.map fun p =>
            (withoutSlashes p ++ "/config", withoutSlashes p ++ "/config")).toList config) :=
        converses_mark (σ := σ) s paths dir (hcollections.append (hplugins.append (hmodules.append hconfig)))
      simp only [List.append_assoc] at hmark
      cases hlocation : paths.toolLocation with
      | none =>
          rw [hlocation] at hmark
          exact hmark .nil
      | some location =>
          rw [hlocation] at hmark
          -- With the list left open nothing of the copying is computed.
          dsimp only [Option.map_some, Option.toList_some] at hmark ⊢
          generalize [(withoutSlashes location ++ "/config", withoutSlashes location ++ "/config")] = list at hmark ⊢
          exact (converses_copyPaths s dir list).bind fun _ _ hconfig => hmark hconfig

/-- What is said to fill the cache from a container. One that is running is removed after the copying, and then the
    progress indicator is ended. -/
inductive Filled (engine : Engine) (image : String) (paths : ToolPaths) (dir : String) :
    List Exchange → Except EnvironmentFault Unit → Prop where
  | refused {starting : List Exchange} {fault : EnvironmentFault}
      (hstarting : Started engine image starting (.error fault)) :
      Filled engine image paths dir starting (.error fault)
  | copied {starting populating : List Exchange} {s : Session} {v : Except EnvironmentFault Unit}
      (title message : String) (token : Option String) (stopped removed : Except ExecFault CommandOutput)
      (hstarting : Started engine image starting (.ok s)) (hpopulating : Populated s paths dir populating v) :
      Filled engine image paths dir
        (starting ++ ⟨.beginProgress title message, token⟩ :: populating
          ++ (removal s.engine s.name stopped removed ++ ending token)) v

theorem converses_fillCache (e : Environment) (paths : ToolPaths) (dir : String) :
    (e.fillCache paths dir : Program σ _).Converses (Filled e.engine e.image paths dir) := by
  refine (converses_start e.engine e.image).bind fun starting started hstarting => ?_
  split
  next fault =>
      rw [← List.append_nil starting] at hstarting
      exact .refused hstarting
  next s =>
      refine (converses_ask _).bind fun _ token h => ?_
      refine (converses_populate s paths dir).bind fun populating v hpopulating => ?_
      refine (converses_removeContainer s.engine s.name).bind fun _ _ hremoval => ?_
      refine (converses_endProgress token).bind fun _ _ hending => ?_
      obtain ⟨stopped, removed, rfl⟩ := hremoval
      subst h hending
      have hfilled := Filled.copied "Execution environment"
        ("Copying plugin docs from " ++ e.image ++ " to the host cache") token stopped removed hstarting hpopulating
      change Filled _ _ _ _ _ _
      simpa only [List.append_assoc, List.cons_append, List.nil_append, List.append_nil] using hfilled

/-! ### What a fetch keeps to -/

/-- What is said besides: nothing is started, written or begun. -/
def Incidental (engine : Engine) (x : Exchange) : Prop :=
  match x.question with
  | .seeFiles | .createDirs _ | .endProgress _ => True
  | .run request => isRunLine engine request.command = false
  | _ => False

theorem Copies.incidental {s : Session} {x : Exchange} (h : Copies s x) : Incidental s.engine x := by
  obtain ⟨question, answer⟩ := x
  cases question with
  | run request =>
      obtain ⟨rest, hexec | hcopy⟩ := h
      · exact (congrArg (isRunLine s.engine) hexec).trans (isRunLine_append s.engine " exec " rest)
      · exact (congrArg (isRunLine s.engine) hcopy).trans (isRunLine_append s.engine " cp " rest)
  | seeFiles => trivial
  | createDirs path => trivial
  | _ => exact absurd h id

theorem incidental_removal (engine : Engine) (name : String) (stopped removed : Except ExecFault CommandOutput) :
    ∀ x ∈ removal engine name stopped removed, Incidental engine x := by
  intro x hx
  rcases List.mem_pair.1 hx with rfl | rfl
  · exact isRunLine_stopLine engine name
  · exact isRunLine_removeLine engine name

theorem incidental_ending (engine : Engine) (token : Option String) : ∀ x ∈ ending token, Incidental engine x := by
  cases token with
  | none => exact List.forall_mem_nil _
  | some token => exact List.forall_mem_singleton.2 trivial

/-- No container is started on the side. -/
theorem filter_isRunLine_of_incidental {engine : Engine} {said : List Exchange}
    (h : ∀ x ∈ said, Incidental engine x) : (commandLines said).filter (isRunLine engine) = [] := by
  rw [List.filter_eq_nil_iff]
  intro line hline
  obtain ⟨⟨question, answer⟩, hx, hcommand⟩ := List.mem_filterMap.1 hline
  have hincidental := h _ hx
  cases question with
  | run request =>
      cases hcommand
      exact Bool.eq_false_iff.1 hincidental
  | _ => cases hcommand

/-- What a fetch keeps to that uses a container, whatever it is answered. -/
structure FromContainer {α : Type} (engine : Engine) (image : String) (paths : ToolPaths) (dir : String)
    (said : List Exchange) (v : Except EnvironmentFault α) : Prop where
  /-- One container is started. -/
  runs_once : (commandLines said).filter (isRunLine engine) = [startLine engine image]
  /-- It is removed at the very end. -/
  removed_last : ∃ earlier, commandLines said = earlier ++ removalLines engine image
  /-- Only the mark of a complete cache is written: from a running container, when nothing is left to do but to
      remove it. -/
  marked_last : ∀ before path text answer after, said = before ++ ⟨.write path text, answer⟩ :: after →
    path = joinPath dir successMarker ∧
    (∃ result, failure? result = none ∧ .command (startLine engine image) result ∈ before) ∧
    commandLines after = removalLines engine image
  /-- Each path to copy has been tried by then. -/
  tried_before_mark : ∀ before path text answer after, said = before ++ ⟨.write path text, answer⟩ :: after →
    ∃ earlier trying, before = earlier ++ trying ∧
      TriedEach ⟨engine, sanitizeName image⟩ dir (copyList paths) trying
  /-- A fetch that fails has not marked the cache. -/
  unmarked_by_failure : ∀ fault, v = .error fault → ∀ path text answer,
    ⟨.write path text, answer⟩ ∈ said → ∃ reason : IoFault, answer = .error reason
  /-- A progress indicator that is started is ended. -/
  progress_ended : ∀ before title message token after,
    said = before ++ ⟨.beginProgress title message, some token⟩ :: after → ⟨.endProgress token, ()⟩ ∈ after

/-! ### Where things are said -/

/-- Something is written. -/
def IsWrite (x : Exchange) : Prop := ∃ path text answer, x = ⟨.write path text, answer⟩

/-- A progress indicator is asked for. -/
def IsBegin (x : Exchange) : Prop := ∃ title message token, x = ⟨.beginProgress title message, token⟩

theorem Incidental.not_isWrite {engine : Engine} {x : Exchange} (h : Incidental engine x) : ¬ IsWrite x := by
  rintro ⟨path, text, answer, rfl⟩
  exact h

theorem Incidental.not_isBegin {engine : Engine} {x : Exchange} (h : Incidental engine x) : ¬ IsBegin x := by
  rintro ⟨title, message, token, rfl⟩
  exact h

theorem not_isWrite_command (line : String) (result : Except ExecFault CommandOutput) :
    ¬ IsWrite (.command line result) := by
  rintro ⟨path, text, answer, h⟩
  cases h

theorem not_isBegin_command (line : String) (result : Except ExecFault CommandOutput) :
    ¬ IsBegin (.command line result) := by
  rintro ⟨title, message, token, h⟩
  cases h

/-- The parts on either side of the one place of its kind. -/
theorem sides_of_only {kind : Exchange → Prop} {front back before after : List Exchange} {x y : Exchange}
    (hfront : ∀ z ∈ front, ¬ kind z) (hback : ∀ z ∈ back, ¬ kind z) (hy : kind y)
    (h : front ++ x :: back = before ++ y :: after) : front = before ∧ x = y ∧ back = after :=
  (List.append_cons_inj_of_notMem (fun hmem => hfront y hmem hy) (fun hmem => hback y hmem hy)).1 h

variable {engine : Engine} {image dir : String} {paths : ToolPaths} {α : Type}

/-- The parts of what is said to use a container: what is said before it is started, the start, perhaps the begin
    of a progress indicator, the copying, perhaps the mark of a complete cache, and what is said after that. -/
structure Parts (engine : Engine) (image : String) (paths : ToolPaths) (dir : String) where
  before : List Exchange
  result : Except ExecFault CommandOutput
  begun : Option (String × String × Option String)
  copying : List Exchange
  written : Option (Except IoFault Unit)
  after : List Exchange
  incidental_before : ∀ x ∈ before, Incidental engine x
  incidental_copying : ∀ x ∈ copying, Incidental engine x
  incidental_after : ∀ x ∈ after, Incidental engine x
  /-- The mark is that of a running container. -/
  running_of_written : ∀ answer, written = some answer → failure? result = none
  /-- Each path to copy is tried before the mark. -/
  tried_of_written : ∀ answer, written = some answer → ∃ earlier trying, copying = earlier ++ trying ∧
    TriedEach ⟨engine, sanitizeName image⟩ dir (copyList paths) trying
  ended_of_begun : ∀ title message token, begun = some (title, message, some token) →
    ⟨.endProgress token, ()⟩ ∈ after
  /-- After the mark nothing is left to do but to remove the container. -/
  lines_after : commandLines after = removalLines engine image

namespace Parts

/-- What is said to begin. -/
def beginning : Option (String × String × Option String) → List Exchange
  | some (title, message, token) => [⟨.beginProgress title message, token⟩]
  | none => []

/-- What is said to mark a cache directory. -/
def marking (dir : String) : Option (Except IoFault Unit) → List Exchange
  | some answer => [⟨.write (joinPath dir successMarker) "", answer⟩]
  | none => []

/-- All that is said before the mark. -/
def front (p : Parts engine image paths dir) : List Exchange :=
  p.before ++ .command (startLine engine image) p.result :: (beginning p.begun ++ p.copying)

/-- All that is said. -/
def said (p : Parts engine image paths dir) : List Exchange := p.front ++ (marking dir p.written ++ p.after)

variable (p : Parts engine image paths dir)

theorem commandLines_beginning (begun : Option (String × String × Option String)) :
    commandLines (beginning begun) = [] := by
  rcases begun with _ | ⟨title, message, token⟩ <;> rfl

theorem commandLines_marking (written : Option (Except IoFault Unit)) :
    commandLines (marking dir written) = [] := by
  cases written <;> rfl

theorem commandLines_said : commandLines p.said =
    commandLines p.before ++ startLine engine image :: (commandLines p.copying ++ commandLines p.after) := by
  simp only [said, front, commandLines_append, commandLines_command, commandLines_beginning,
    commandLines_marking, List.nil_append, List.append_assoc, List.cons_append]

/-- Only the mark is written. -/
theorem eq_of_isWrite {front x back} (h : p.said = front ++ x :: back) (hx : IsWrite x) :
    marking dir p.written = [x] ∧ front = p.front ∧ back = p.after := by
  have hfront : ∀ z ∈ p.front, ¬ IsWrite z := by
    refine List.forall_mem_append.2 ⟨fun z hz => (p.incidental_before z hz).not_isWrite, ?_⟩
    refine List.forall_mem_cons.2 ⟨not_isWrite_command _ _, ?_⟩
    refine List.forall_mem_append.2 ⟨?_, fun z hz => (p.incidental_copying z hz).not_isWrite⟩
    rcases p.begun with _ | ⟨title, message, token⟩
    · exact List.forall_mem_nil _
    · refine List.forall_mem_singleton.2 ?_
      rintro ⟨path, text, answer, h⟩
      cases h
  have hafter : ∀ z ∈ p.after, ¬ IsWrite z := fun z hz => (p.incidental_after z hz).not_isWrite
  rw [said] at h
  cases hwritten : p.written with
  | none =>
      rw [hwritten] at h
      have hmem : x ∈ p.front ++ p.after := h ▸ List.mem_append_right front List.mem_cons_self
      exact absurd hx (List.forall_mem_append.2 ⟨hfront, hafter⟩ x hmem)
  | some answer =>
      rw [hwritten] at h
      obtain ⟨rfl, rfl, rfl⟩ := sides_of_only hfront hafter hx h
      exact ⟨rfl, rfl, rfl⟩

/-- Only one progress indicator is begun, and what is said after it ends with the last part. -/
theorem eq_of_isBegin {front x back} (h : p.said = front ++ x :: back) (hx : IsBegin x) :
    beginning p.begun = [x] ∧ p.after <:+ back := by
  have hbefore : ∀ z ∈ p.before ++ [.command (startLine engine image) p.result], ¬ IsBegin z :=
    List.forall_mem_append.2 ⟨fun z hz => (p.incidental_before z hz).not_isBegin,
      List.forall_mem_singleton.2 (not_isBegin_command _ _)⟩
  have hlater : ∀ z ∈ p.copying ++ (marking dir p.written ++ p.after), ¬ IsBegin z := by
    refine List.forall_mem_append.2 ⟨fun z hz => (p.incidental_copying z hz).not_isBegin, ?_⟩
    refine List.forall_mem_append.2 ⟨?_, fun z hz => (p.incidental_after z hz).not_isBegin⟩
    cases p.written with
    | none => exact List.forall_mem_nil _
    | some answer =>
        refine List.forall_mem_singleton.2 ?_
        rintro ⟨title, message, token, h⟩
        cases h
  have hsaid : p.said = (p.before ++ [.command (startLine engine image) p.result]) ++
      (beginning p.begun ++ (p.copying ++ (marking dir p.written ++ p.after))) := by
    simp only [said, Parts.front, List.append_assoc, List.cons_append, List.nil_append]
  rw [hsaid] at h
  cases hbegun : p.begun with
  | none =>
      rw [hbegun] at h
      have hmem : x ∈ (p.before ++ [.command (startLine engine image) p.result]) ++
          (p.copying ++ (marking dir p.written ++ p.after)) := h ▸ List.mem_append_right front List.mem_cons_self
      exact absurd hx (List.forall_mem_append.2 ⟨hbefore, hlater⟩ x hmem)
  | some begun =>
      rw [hbegun] at h
      obtain ⟨rfl, rfl, rfl⟩ := sides_of_only hbefore hlater hx h
      exact ⟨rfl, (List.suffix_append _ _).trans (List.suffix_append _ _)⟩

/-- What is said in these parts is as a fetch keeps to, if the mark was refused whenever the fetch fails. -/
theorem fromContainer {v : Except EnvironmentFault α}
    (hfails : ∀ fault, v = .error fault → p.written ≠ some (.ok ())) :
    FromContainer engine image paths dir p.said v where
  runs_once := by
    rw [commandLines_said, List.filter_append, List.filter_cons, List.filter_append,
      filter_isRunLine_of_incidental p.incidental_before, filter_isRunLine_of_incidental p.incidental_copying,
      filter_isRunLine_of_incidental p.incidental_after, isRunLine_startLine]
    rfl
  removed_last := by
    refine ⟨commandLines p.before ++ startLine engine image :: commandLines p.copying, ?_⟩
    rw [commandLines_said, p.lines_after, List.append_assoc, List.cons_append]
  marked_last := by
    intro front path text answer back h
    obtain ⟨hmarking, rfl, rfl⟩ := p.eq_of_isWrite h ⟨path, text, answer, rfl⟩
    cases hwritten : p.written with
    | none => simp [marking, hwritten] at hmarking
    | some written =>
        rw [hwritten] at hmarking
        cases hmarking
        exact ⟨rfl, ⟨p.result, p.running_of_written _ hwritten, List.mem_append_right _ List.mem_cons_self⟩,
          p.lines_after⟩
  tried_before_mark := by
    intro front path text answer back h
    obtain ⟨hmarking, rfl, -⟩ := p.eq_of_isWrite h ⟨path, text, answer, rfl⟩
    cases hwritten : p.written with
    | none => simp [marking, hwritten] at hmarking
    | some written =>
        obtain ⟨earlier, trying, hcopying, htried⟩ := p.tried_of_written _ hwritten
        refine ⟨p.before ++ .command (startLine engine image) p.result :: (beginning p.begun ++ earlier), trying, ?_,
          htried⟩
        simp only [Parts.front, hcopying, List.append_assoc, List.cons_append]
  unmarked_by_failure := by
    intro fault hfault path text answer hmem
    obtain ⟨front, back, h⟩ := List.append_of_mem hmem
    obtain ⟨hmarking, -, -⟩ := p.eq_of_isWrite h ⟨path, text, answer, rfl⟩
    rcases hwritten : p.written with _ | reason | ⟨⟩
    · simp [marking, hwritten] at hmarking
    · rw [hwritten] at hmarking
      cases hmarking
      exact ⟨reason, rfl⟩
    · exact absurd hwritten (hfails fault hfault)
  progress_ended := by
    intro front title message token back h
    obtain ⟨hbeginning, hafter⟩ := p.eq_of_isBegin h ⟨title, message, some token, rfl⟩
    rcases hbegun : p.begun with _ | ⟨title', message', token'⟩
    · simp [beginning, hbegun] at hbeginning
    · rw [hbegun] at hbeginning
      cases hbeginning
      exact hafter.subset (p.ended_of_begun title message token hbegun)

end Parts

/-- Filling the cache is copying and then perhaps the mark, which is refused if the filling fails. -/
theorem Populated.parts {s : Session} {populating : List Exchange} {u : Except EnvironmentFault Unit}
    (h : Populated s paths dir populating u) : ∃ copying written, populating = copying ++ Parts.marking dir written ∧
      (∀ x ∈ copying, Incidental s.engine x) ∧ (u ≠ .ok () → written ≠ some (.ok ())) ∧
      ∀ answer, written = some answer → ∃ earlier trying, copying = earlier ++ trying ∧
        TriedEach s dir (copyList paths) trying := by
  have hincidental {trying : List Exchange} (htried : TriedEach s dir (copyList paths) trying) :
      ∀ x ∈ (⟨.createDirs dir, .ok ()⟩ : Exchange) :: trying, Incidental s.engine x :=
    List.forall_mem_cons.2 ⟨trivial, fun x hx => (htried.copies x hx).incidental⟩
  cases h with
  | unmade fault =>
      exact ⟨[⟨.createDirs dir, .error fault⟩], none, rfl, List.forall_mem_singleton.2 trivial, fun _ => nofun, nofun⟩
  | unmarked trying fault htried =>
      exact ⟨_ :: trying, some (.error fault), rfl, hincidental htried, fun _ => nofun,
        fun _ _ => ⟨[_], trying, rfl, htried⟩⟩
  | marked trying htried =>
      exact ⟨_ :: trying, some (.ok ()), rfl, hincidental htried, fun hfailed _ => hfailed rfl,
        fun _ _ => ⟨[_], trying, rfl, htried⟩⟩

/-- Filling the cache, between what is said before and after it. -/
theorem Filled.fromContainer {filling opening closing : List Exchange} {u : Except EnvironmentFault Unit}
    {v : Except EnvironmentFault α} (h : Filled engine image paths dir filling u)
    (hopening : ∀ x ∈ opening, Incidental engine x) (hclosing : ∀ x ∈ closing, Incidental engine x)
    (hlines : commandLines closing = []) (hfails : ∀ fault, v = .error fault → u ≠ .ok ()) :
    FromContainer engine image paths dir (opening ++ (filling ++ closing)) v := by
  have hbefore (stopped removed : Except ExecFault CommandOutput) :
      ∀ x ∈ opening ++ removal engine (sanitizeName image) stopped removed, Incidental engine x :=
    List.forall_mem_append.2 ⟨hopening, incidental_removal _ _ _ _⟩
  have hafter (stopped removed : Except ExecFault CommandOutput) (rest : List Exchange)
      (hrest : commandLines rest = []) :
      commandLines (removal engine (sanitizeName image) stopped removed ++ rest) = removalLines engine image := by
    rw [commandLines_append, hrest]
    rfl
  cases h with
  | refused hstarting =>
      cases hstarting with
      | failed stopped removed result stopped' removed' reason =>
          have hparts := Parts.fromContainer (v := v)
            { before := opening ++ removal engine (sanitizeName image) stopped removed
              result, begun := none, copying := [], written := none
              after := removal engine (sanitizeName image) stopped' removed' ++ closing
              incidental_before := hbefore stopped removed
              incidental_copying := List.forall_mem_nil _
              incidental_after := List.forall_mem_append.2 ⟨incidental_removal _ _ _ _, hclosing⟩
              running_of_written := nofun
              tried_of_written := nofun
              ended_of_begun := nofun
              lines_after := hafter stopped' removed' closing hlines : Parts engine image paths dir } nofun
          simpa [Parts.said, Parts.front, Parts.beginning, Parts.marking] using hparts
  | copied title message token stopped' removed' hstarting hpopulating =>
      cases hstarting with
      | running stopped removed result hrunning =>
          obtain ⟨copying, written, rfl, hcopying, hwritten, htried⟩ := hpopulating.parts
          have hclosing_lines : commandLines (ending token ++ closing) = [] := by
            rw [commandLines_append, hlines]
            cases token <;> rfl
          have hparts := Parts.fromContainer (v := v)
            { before := opening ++ removal engine (sanitizeName image) stopped removed
              result, begun := some (title, message, token), copying, written
              after := removal engine (sanitizeName image) stopped' removed' ++ (ending token ++ closing)
              incidental_before := hbefore stopped removed
              incidental_copying := hcopying
              incidental_after := List.forall_mem_append.2
                ⟨incidental_removal _ _ _ _, List.forall_mem_append.2 ⟨incidental_ending _ _, hclosing⟩⟩
              running_of_written := fun _ _ => hrunning
              tried_of_written := htried
              ended_of_begun := by
                rintro _ _ token' ⟨⟩
                exact List.mem_append_right _ (List.mem_append_left _ List.mem_cons_self)
              lines_after := hafter stopped' removed' (ending token ++ closing) hclosing_lines }
            fun fault hfault => hwritten (hfails fault hfault)
          simpa [Parts.said, Parts.front, Parts.beginning] using hparts

/-! ### A fetch -/

namespace Environment

/-- The command that asks for the id of the image. -/
def idLine (e : Environment) : String := e.engine.name ++ " images " ++ e.image ++ " --format \"\x7b\x7b.ID\x7d\x7d\""

theorem isRunLine_idLine (e : Environment) : isRunLine e.engine e.idLine = false := by
  rw [idLine, String.append_assoc]
  exact isRunLine_append e.engine " images " _

/-- The id that the answer gives. -/
def idOf (e : Environment) : Except ExecFault CommandOutput → Except EnvironmentFault String
  | .error f => .error (.exec f)
  | .ok o =>
    match ((linesOf o.stdout).map trimmed).find? (· ≠ "") with
    | some id => if o.success then .ok id else .error (.imageId e.image)
    | none => .error (.imageId e.image)

/-- The cache directory of an image with an id. -/
def cacheDirOf (e : Environment) (id : String) : String :=
  joinPath (joinPath e.host.cacheRoot (sanitizeName e.image)) (sanitizeName id)

/-- How documentation is fetched out of an image: not at all if it has no id, as it was before if the cache is
    complete, and from a container otherwise. -/
inductive Fetched (e : Environment) (paths : ToolPaths) :
    List Exchange → Except EnvironmentFault ToolPaths → Prop where
  | unresolved (result : Except ExecFault CommandOutput) (fault : EnvironmentFault)
      (hid : e.idOf result = .error fault) : Fetched e paths [.command e.idLine result] (.error fault)
  | reused (result : Except ExecFault CommandOutput) (id : String) (files : FileView)
      (hid : e.idOf result = .ok id) (hmarked : files.isThere (joinPath (e.cacheDirOf id) successMarker) = true) :
      Fetched e paths [.command e.idLine result, ⟨.seeFiles, files⟩]
        (.ok (relocateToCache files paths (e.cacheDirOf id)))
  | filled (result : Except ExecFault CommandOutput) (id : String) (files : FileView) (later : List Exchange)
      (v : Except EnvironmentFault ToolPaths) (hid : e.idOf result = .ok id)
      (hunmarked : files.isThere (joinPath (e.cacheDirOf id) successMarker) = false)
      (hcontainer : FromContainer e.engine e.image paths (e.cacheDirOf id)
        (.command e.idLine result :: ⟨.seeFiles, files⟩ :: later) v) :
      Fetched e paths (.command e.idLine result :: ⟨.seeFiles, files⟩ :: later) v

theorem converses_imageId (e : Environment) :
    (e.imageId : Program σ _).Converses fun said id =>
      ∃ result, said = [.command e.idLine result] ∧ id = e.idOf result := by
  refine (converses_runLine _).bind fun _ result h => ?_
  subst h
  cases result with
  | error fault => exact ⟨_, rfl, rfl⟩
  | ok o =>
      have hid : e.idOf (.ok o) = match ((linesOf o.stdout).map trimmed).find? (· ≠ "") with
        | some id => if o.success then .ok id else .error (.imageId e.image)
        | none => .error (.imageId e.image) := rfl
      dsimp only
      split
      next id hfind =>
          rw [hfind] at hid
          dsimp only at hid
          split
          next hsuccess => exact ⟨_, rfl, by rw [hid, if_pos hsuccess]⟩
          next hsuccess => exact ⟨_, rfl, by rw [hid, if_neg hsuccess]⟩
      next hfind =>
          rw [hfind] at hid
          exact ⟨_, rfl, hid.symm⟩

theorem converses_pluginCacheDir (e : Environment) :
    (e.pluginCacheDir : Program σ _).Converses fun said dir =>
      ∃ result, said = [.command e.idLine result] ∧ dir = (e.idOf result).map e.cacheDirOf := by
  refine (converses_imageId e).bind fun _ id h => ?_
  obtain ⟨result, rfl, rfl⟩ := h
  cases h : e.idOf result with
  | error fault => exact ⟨result, rfl, by rw [h]; rfl⟩
  | ok id => exact ⟨result, rfl, by rw [h]; rfl⟩

theorem converses_fetchPluginDocs (e : Environment) (paths : ToolPaths) :
    (e.fetchPluginDocs paths : Program σ _).Converses (e.Fetched paths) := by
  refine (converses_pluginCacheDir e).bind fun _ dir h => ?_
  obtain ⟨result, rfl, rfl⟩ := h
  cases hid : e.idOf result with
  | error fault => exact .unresolved result fault hid
  | ok id =>
      refine (converses_ask _).bind fun _ files h => ?_
      subst h
      have hopening : ∀ x ∈ [.command e.idLine result, (⟨.seeFiles, files⟩ : Exchange)],
          Incidental e.engine x :=
        List.forall_mem_cons.2 ⟨isRunLine_idLine e, List.forall_mem_singleton.2 trivial⟩
      split
      next hmarked => exact .reused result id files hid hmarked
      next hunmarked =>
          refine (converses_fillCache e paths _).bind fun filling filled hfilled => ?_
          split
          next fault =>
              refine .filled result id files (filling ++ []) _ hid (Bool.eq_false_iff.2 hunmarked) ?_
              exact hfilled.fromContainer hopening (List.forall_mem_nil _) rfl fun _ _ => nofun
          next =>
              refine (converses_ask _).bind fun _ files' h => ?_
              subst h
              refine .filled result id files (filling ++ [⟨.seeFiles, files'⟩]) _ hid
                (Bool.eq_false_iff.2 hunmarked) ?_
              exact hfilled.fromContainer hopening (List.forall_mem_singleton.2 trivial) rfl nofun

/-- Whatever commands and files answer, a fetch comes to its end, having said what it keeps to. -/
theorem fetch_removes_container {ω : Type} (answer : (q : Query) → ω → q.Answer × ω) (e : Environment)
    (paths : ToolPaths) (s : σ) (w : ω) : ∃ v w' said,
      (e.fetchPluginDocs paths).run (recording answer) s (w, []) = .finished v s (w', said) ∧
        e.Fetched paths said v := by
  obtain ⟨v, w', said, hrun, hfetched⟩ := (converses_fetchPluginDocs e paths).run answer s w []
  exact ⟨v, w', said, hrun, hfetched⟩

end Environment

end Container

end PlaybookServer

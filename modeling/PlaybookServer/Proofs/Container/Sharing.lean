/-
Module: PlaybookServer.Proofs.Container.Sharing
Purpose: Two fetches of documentation out of one image. The name of a container comes from its image, so the fetches
  use one name between them, and each removes what has this name before it starts its own container. One after the
  other they do each other no harm. Taken together, one removes the container of the other exactly if it says so
  between the start of that container and its teardown; and as soon as both get to their containers there is an
  order of their commands in which this happens.
Main exports: UsesContainer, Side, Log, holder, Disturbed, Possible, Crossed, disturbed_iff_crossed,
  exists_disturbing_log, fetches_share_container
-/
import Mathlib.Data.List.Induction
import PlaybookServer.Proofs.Container.Teardown

namespace PlaybookServer.Container

open Text Files Effect Docs Tool

variable {σ : Type} {engine : Engine} {image : String}

/-! ### Starts and removals -/

/-- Whether a container of an image is started. -/
def isStart (engine : Engine) (image : String) : Exchange → Bool
  | ⟨.run request, result⟩ => request.command = startLine engine image && (failure? result).isNone
  | _ => false

/-- Whether the container of an image is asked to be removed. -/
def isRemoval (engine : Engine) (image : String) (x : Exchange) : Bool :=
  (x.commandLine?.map (removalLines engine image).contains).getD false

/-- Nothing is started and nothing removed. -/
def Quiet (engine : Engine) (image : String) (x : Exchange) : Prop :=
  isStart engine image x = false ∧ isRemoval engine image x = false

theorem not_quiet_of_isStart {x : Exchange} (starts : isStart engine image x = true) : ¬ Quiet engine image x := by
  intro quiet
  rw [quiet.1] at starts
  exact nomatch starts

theorem not_quiet_of_isRemoval {x : Exchange} (removes : isRemoval engine image x = true) :
    ¬ Quiet engine image x := by
  intro quiet
  rw [quiet.2] at removes
  exact nomatch removes

theorem quiet_of_no_command {x : Exchange} (silent : x.commandLine? = none) : Quiet engine image x := by
  obtain ⟨question, answer⟩ := x
  cases question with
  | run request => exact nomatch silent
  | _ => exact ⟨rfl, rfl⟩

/-- The commands of an engine differ in their verbs. -/
theorem line_ne_of_verb_ne (engine : Engine) {verb verb' : String} (rest rest' : String)
    (different : verb.toList.take 4 ≠ verb'.toList.take 4) (long : 4 ≤ verb.toList.length)
    (long' : 4 ≤ verb'.toList.length) : engine.name ++ verb ++ rest ≠ engine.name ++ verb' ++ rest' := by
  intro same
  apply different
  have lists := congrArg (fun line : String => (line.toList.drop engine.name.toList.length).take 4) same
  simpa [List.take_append_of_le_length long, List.take_append_of_le_length long'] using lists

theorem startLine_eq (engine : Engine) (image : String) : startLine engine image = engine.name ++ " run -i " ++
    ("--rm -d --name " ++ sanitizeName image ++ " " ++ image ++ " bash") := by
  rw [startLine, show " run -i --rm -d --name " = " run -i " ++ "--rm -d --name " from rfl]
  simp only [String.append_assoc]

/-- A command with another verb starts and removes nothing. -/
theorem quiet_run {verb rest : String} {request : CommandRequest} {result : Except ExecFault CommandOutput}
    (hline : request.command = engine.name ++ verb ++ rest) (long : 4 ≤ verb.toList.length)
    (notStop : verb.toList.take 4 ≠ " sto".toList) (notRemove : verb.toList.take 4 ≠ " rm ".toList)
    (notRun : verb.toList.take 4 ≠ " run".toList) : Quiet engine image ⟨.run request, result⟩ := by
  have apart : request.command ≠ startLine engine image ∧
      request.command ≠ stopLine engine (sanitizeName image) ∧
      request.command ≠ removeLine engine (sanitizeName image) := by
    rw [hline, startLine_eq]
    exact ⟨line_ne_of_verb_ne engine _ _ notRun long (by decide),
      line_ne_of_verb_ne engine _ _ notStop long (by decide),
      line_ne_of_verb_ne engine _ _ notRemove long (by decide)⟩
  constructor
  · simp [isStart, apart.1]
  · simp [isRemoval, Exchange.commandLine?, removalLines, apart.2.1, apart.2.2]

theorem Copies.quiet {s : Session} {x : Exchange} (h : Copies s x) : Quiet s.engine image x := by
  obtain ⟨question, answer⟩ := x
  cases question with
  | run request =>
      obtain ⟨rest, hexec | hcopy⟩ := h
      · exact quiet_run hexec (by decide) (by decide) (by decide) (by decide)
      · exact quiet_run hcopy (by decide) (by decide) (by decide) (by decide)
  | _ => exact quiet_of_no_command rfl

theorem quiet_idLine (e : Environment) (result : Except ExecFault CommandOutput) :
    Quiet e.engine image (.command e.idLine result) := by
  have hline : e.idLine = e.engine.name ++ " images " ++
      (e.image ++ " --format \"\x7b\x7b.ID\x7d\x7d\"") := by
    rw [Environment.idLine]
    simp only [String.append_assoc]
  exact quiet_run hline (by decide) (by decide) (by decide) (by decide)

theorem isRemoval_of_mem_removal (stopped removed : Except ExecFault CommandOutput) {x : Exchange}
    (member : x ∈ removal engine (sanitizeName image) stopped removed) : isRemoval engine image x = true := by
  rcases List.mem_pair.1 member with rfl | rfl
  · simp [isRemoval, Exchange.commandLine?, removalLines]
  · simp [isRemoval, Exchange.commandLine?, removalLines]

theorem isStart_of_isRemoval {x : Exchange} (removes : isRemoval engine image x = true) :
    isStart engine image x = false := by
  obtain ⟨question, result⟩ := x
  cases question with
  | run request =>
      have apart : startLine engine image ≠ stopLine engine (sanitizeName image) ∧
          startLine engine image ≠ removeLine engine (sanitizeName image) := by
        rw [startLine_eq]
        exact ⟨line_ne_of_verb_ne engine _ _ (by decide) (by decide) (by decide),
          line_ne_of_verb_ne engine _ _ (by decide) (by decide) (by decide)⟩
      simp only [isRemoval, Exchange.commandLine?, removalLines, Option.map_some, Option.getD_some,
        List.contains_cons, List.contains_nil, Bool.or_false, Bool.or_eq_true, beq_iff_eq] at removes
      simp only [isStart, Bool.and_eq_false_imp, decide_eq_true_eq]
      intro starts
      rw [starts] at removes
      exact absurd removes (not_or.2 apart)
  | _ => rfl

/-! ### What a fetch says about its container -/

/-- What is said where a container is used: it is removed, started, asked and removed. -/
inductive UsesContainer (engine : Engine) (image : String) : List Exchange → Prop where
  | mk {opening during closing : List Exchange}
      (stopped removed result stopped' removed' : Except ExecFault CommandOutput)
      (hopening : ∀ x ∈ opening, Quiet engine image x) (hduring : ∀ x ∈ during, Quiet engine image x)
      (hclosing : ∀ x ∈ closing, Quiet engine image x) :
      UsesContainer engine image (opening ++ (removal engine (sanitizeName image) stopped removed ++
        (.command (startLine engine image) result ::
          (during ++ (removal engine (sanitizeName image) stopped' removed' ++ closing)))))

/-- What is said quietly before and after does not count. -/
theorem UsesContainer.extend {said before after : List Exchange} (h : UsesContainer engine image said)
    (hbefore : ∀ x ∈ before, Quiet engine image x) (hafter : ∀ x ∈ after, Quiet engine image x) :
    UsesContainer engine image (before ++ (said ++ after)) := by
  cases h with
  | mk stopped removed result stopped' removed' hopening hduring hclosing =>
      have longer := UsesContainer.mk stopped removed result stopped' removed'
        (List.forall_mem_append.2 ⟨hbefore, hopening⟩) hduring (List.forall_mem_append.2 ⟨hclosing, hafter⟩)
      simpa only [List.append_assoc, List.cons_append] using longer

theorem Populated.quiet {s : Session} {paths : ToolPaths} {dir : String} {populating : List Exchange}
    {v : Except EnvironmentFault Unit} (h : Populated s paths dir populating v) :
    ∀ x ∈ populating, Quiet s.engine image x :=
  h.forall_mem (fun _ => Copies.quiet) fun _ => quiet_of_no_command rfl

theorem quiet_ending (token : Option String) : ∀ x ∈ ending token, Quiet engine image x := by
  cases token with
  | none => exact List.forall_mem_nil _
  | some token => exact List.forall_mem_singleton.2 (quiet_of_no_command rfl)

theorem Filled.usesContainer {paths : ToolPaths} {dir : String} {filling : List Exchange}
    {v : Except EnvironmentFault Unit} (h : Filled engine image paths dir filling v) :
    UsesContainer engine image filling := by
  cases h with
  | refused hstarting =>
      cases hstarting with
      | failed stopped removed result stopped' removed' reason =>
          have quiet : ∀ x ∈ ([] : List Exchange), Quiet engine image x := List.forall_mem_nil _
          have uses := UsesContainer.mk stopped removed result stopped' removed' quiet quiet quiet
          simpa using uses
  | copied title message token stopped' removed' hstarting hpopulating =>
      cases hstarting with
      | running stopped removed result hrunning =>
          have hduring : ∀ x ∈ (⟨.beginProgress title message, token⟩ : Exchange) :: _, Quiet engine image x :=
            List.forall_mem_cons.2 ⟨quiet_of_no_command rfl, hpopulating.quiet⟩
          have uses := UsesContainer.mk stopped removed result stopped' removed' (List.forall_mem_nil _) hduring
            (quiet_ending token)
          simpa only [List.append_assoc, List.cons_append, List.nil_append] using uses

/-- A fetch uses one container or says nothing about any. -/
theorem converses_fetch_usesContainer (e : Environment) (paths : ToolPaths) :
    (e.fetchPluginDocs paths : Program σ _).Converses fun said _ =>
      (∀ x ∈ said, Quiet e.engine e.image x) ∨ UsesContainer e.engine e.image said := by
  apply (Environment.converses_pluginCacheDir e).bind
  rintro _ dir ⟨result, rfl, rfl⟩
  have hid : ∀ x ∈ [Exchange.command e.idLine result], Quiet e.engine e.image x :=
    List.forall_mem_singleton.2 (quiet_idLine e result)
  cases e.idOf result with
  | error fault => exact .inl hid
  | ok id =>
      apply (converses_ask _).bind
      rintro _ files rfl
      have hopening : ∀ x ∈ [Exchange.command e.idLine result, ⟨.seeFiles, files⟩], Quiet e.engine e.image x :=
        List.forall_mem_cons.2 ⟨quiet_idLine e result, List.forall_mem_singleton.2 (quiet_of_no_command rfl)⟩
      split
      next => exact .inl hopening
      next =>
          apply (converses_fillCache e paths _).bind
          intro filling filled hfilled
          split
          next => exact .inr (hfilled.usesContainer.extend hopening (List.forall_mem_nil _))
          next =>
              apply (converses_ask _).bind
              rintro _ files' rfl
              exact .inr (hfilled.usesContainer.extend hopening
                (List.forall_mem_singleton.2 (quiet_of_no_command rfl)))

/-! ### Two calls and one container -/

/-- One of two calls. -/
inductive Side where
  | first
  | second
deriving DecidableEq

/-- The call besides. -/
def Side.other : Side → Side
  | .first => .second
  | .second => .first

@[simp] theorem Side.other_other (side : Side) : side.other.other = side := by
  cases side with
  | first => rfl
  | second => rfl

@[simp] theorem Side.other_ne (side : Side) : side.other ≠ side := by
  cases side with
  | first => exact nofun
  | second => exact nofun

theorem Side.eq_or_eq_other (side side' : Side) : side = side' ∨ side = side'.other := by
  cases side with
  | first => cases side' <;> simp [Side.other]
  | second => cases side' <;> simp [Side.other]

/-- What two calls say, in the order in which it is said. -/
abbrev Log := List (Side × Exchange)

/-- What one call says. -/
def saidBy (side : Side) (log : Log) : List Exchange := (log.filter fun entry => entry.1 = side).map Prod.snd

/-- What is said by one call alone. -/
def alone (side : Side) (said : List Exchange) : Log := said.map fun x => (side, x)

theorem alone_append (side : Side) (said later : List Exchange) :
    alone side (said ++ later) = alone side said ++ alone side later :=
  List.map_append

@[simp] theorem saidBy_append (side : Side) (log later : Log) :
    saidBy side (log ++ later) = saidBy side log ++ saidBy side later := by
  simp [saidBy]

@[simp] theorem saidBy_alone (side : Side) (said : List Exchange) : saidBy side (alone side said) = said := by
  simp [saidBy, alone, List.filter_map, Function.comp_def]

@[simp] theorem saidBy_alone_other (side : Side) (said : List Exchange) :
    saidBy side.other (alone side said) = [] := by
  simp [saidBy, alone, List.filter_map, Function.comp_def, (Side.other_ne side).symm]

section World

variable (engine image)

/-- The call whose container is up after one more exchange. -/
def nextHolder (up : Option Side) (entry : Side × Exchange) : Option Side :=
  if isStart engine image entry.2 then some entry.1 else if isRemoval engine image entry.2 then none else up

/-- The call whose container is up after what was said, starting with one that may be up. -/
def holderFrom (up : Option Side) (log : Log) : Option Side := log.foldl (nextHolder engine image) up

/-- The call whose container is up after what was said. -/
def holder (log : Log) : Option Side := holderFrom engine image none log

/-- Whether something comes about in a log: it holds of whose container is up, of a call and of what this call says
    then. -/
def Occurs (event : Option Side → Side → Exchange → Prop) (up : Option Side) (log : Log) : Prop :=
  ∃ before side x after, log = before ++ (side, x) :: after ∧ event (holderFrom engine image up before) side x

/-- A call asks for the removal of the container that the other call has started and that is still up. -/
def Disturbs (up : Option Side) (side : Side) (x : Exchange) : Prop :=
  isRemoval engine image x = true ∧ up = some side.other

/-- A container is started while one of its name is up. -/
def Clashes (up : Option Side) (_ : Side) (x : Exchange) : Prop := isStart engine image x = true ∧ up ≠ none

/-- Whether some call removes the container of the other. -/
def Disturbed (log : Log) : Prop := Occurs engine image (Disturbs engine image) none log

/-- Whether a log is possible where a name can be taken only once. -/
def Possible (log : Log) : Prop := ¬ Occurs engine image (Clashes engine image) none log

/-- Whether a call asks for the removal of the container after the other call has started it and before the other
    call asks for its removal. -/
def Crossed (log : Log) : Prop :=
  ∃ before side x between y after, log = before ++ (side, x) :: (between ++ (side.other, y) :: after) ∧
    isStart engine image x = true ∧ isRemoval engine image y = true ∧
    ∀ entry ∈ between, entry.1 = side → isRemoval engine image entry.2 = false

end World

theorem holderFrom_append (up : Option Side) (log later : Log) :
    holderFrom engine image up (log ++ later) = holderFrom engine image (holderFrom engine image up log) later :=
  List.foldl_append

theorem holder_concat (log : Log) (entry : Side × Exchange) :
    holder engine image (log ++ [entry]) = nextHolder engine image (holder engine image log) entry := by
  simp [holder, holderFrom]

/-- In two logs one after the other something comes about in the first or in the second. -/
theorem occurs_append {event : Option Side → Side → Exchange → Prop} {up : Option Side} {log later : Log} :
    Occurs engine image event up (log ++ later) ↔
      Occurs engine image event up log ∨ Occurs engine image event (holderFrom engine image up log) later := by
  constructor
  · rintro ⟨before, side, x, after, parts, holds⟩
    rcases List.append_eq_append_iff.1 parts with ⟨more, rfl, rfl⟩ | ⟨rest, rfl, split⟩
    · right
      rw [holderFrom_append] at holds
      exact ⟨more, side, x, after, rfl, holds⟩
    · cases rest with
      | nil =>
          right
          rw [List.append_nil]
          exact ⟨[], side, x, after, split.symm, holds⟩
      | cons entry rest =>
          left
          obtain ⟨rfl, rfl⟩ := List.cons.inj split
          exact ⟨before, side, x, rest, rfl, holds⟩
  · rintro (⟨before, side, x, after, rfl, holds⟩ | ⟨before, side, x, after, rfl, holds⟩)
    · exact ⟨before, side, x, after ++ later, by simp, holds⟩
    · exact ⟨log ++ before, side, x, after, by simp, by rwa [holderFrom_append]⟩

/-- Something comes about with the first exchange or after it. -/
theorem occurs_cons {event : Option Side → Side → Exchange → Prop} {up : Option Side} {side : Side} {x : Exchange}
    {log : Log} : Occurs engine image event up ((side, x) :: log) ↔
      event up side x ∨ Occurs engine image event (nextHolder engine image up (side, x)) log := by
  constructor
  · rintro ⟨before, speaker, y, after, parts, holds⟩
    cases before with
    | nil =>
        left
        obtain ⟨rfl, rfl⟩ := Prod.mk.inj (List.cons.inj parts).1
        exact holds
    | cons entry before =>
        right
        obtain ⟨rfl, rfl⟩ := List.cons.inj parts
        exact ⟨before, speaker, y, after, rfl, holds⟩
  · rintro (holds | ⟨before, speaker, y, after, rfl, holds⟩)
    · exact ⟨[], side, x, log, rfl, holds⟩
    · exact ⟨(side, x) :: before, speaker, y, after, rfl, holds⟩

theorem possible_of_append {log later : Log} (possible : Possible engine image (log ++ later)) :
    Possible engine image log := by
  intro clash
  exact possible (occurs_append.2 (.inl clash))

/-- Whose container is up has started it, and nothing was removed since. -/
theorem exists_start_of_holder {log : Log} {side : Side} (up : holder engine image log = some side) :
    ∃ before x between, log = before ++ (side, x) :: between ∧ isStart engine image x = true ∧
      ∀ entry ∈ between, isRemoval engine image entry.2 = false := by
  induction log using List.reverseRecOn with
  | nil => exact nomatch up
  | append_singleton log entry ih =>
      rw [holder_concat, nextHolder] at up
      split at up
      next starts =>
          obtain ⟨speaker, x⟩ := entry
          cases up
          exact ⟨log, x, [], rfl, starts, List.forall_mem_nil _⟩
      next =>
          split at up
          next => exact nomatch up
          next kept =>
              obtain ⟨before, x, between, rfl, starts, quiet⟩ := ih up
              refine ⟨before, x, between ++ [entry], by simp, starts, ?_⟩
              exact List.forall_mem_append.2
                ⟨quiet, List.forall_mem_singleton.2 (Bool.eq_false_iff.2 kept)⟩

/-- A container stays up while nothing is removed. -/
theorem holder_kept {log later : Log} {side : Side} (possible : Possible engine image (log ++ later))
    (up : holder engine image log = some side) (kept : ∀ entry ∈ later, isRemoval engine image entry.2 = false) :
    holder engine image (log ++ later) = some side := by
  induction later using List.reverseRecOn with
  | nil => rwa [List.append_nil]
  | append_singleton later entry ih =>
      rw [← List.append_assoc] at possible ⊢
      have quiet := List.forall_mem_append.1 kept
      have still := ih (possible_of_append possible) quiet.1
      have noStart : isStart engine image entry.2 = false := by
        rw [Bool.eq_false_iff]
        intro starts
        apply possible
        refine ⟨log ++ later, entry.1, entry.2, [], rfl, starts, ?_⟩
        change holder engine image (log ++ later) ≠ none
        rw [still]
        exact nofun
      rw [holder_concat, nextHolder, noStart, List.forall_mem_singleton.1 quiet.2, still]
      rfl

/-- Where a name can be taken only once, a call removes the container of the other exactly if it asks for a removal
    between the start of this container and its teardown. -/
theorem disturbed_iff_crossed {log : Log} (possible : Possible engine image log) :
    Disturbed engine image log ↔ Crossed engine image log := by
  constructor
  · rintro ⟨before, side, y, after, rfl, removes, up⟩
    obtain ⟨earlier, x, between, rfl, starts, quiet⟩ := exists_start_of_holder up
    refine ⟨earlier, side.other, x, between, y, after, by simp, starts, removes, ?_⟩
    intro entry member _
    exact quiet entry member
  · rintro ⟨before, side, x, between, y, after, rfl, starts, removes, own⟩
    -- The first removal after the start is none of the call that started: it still finds the container up.
    have some_removal : ((between ++ [(side.other, y)]).find? fun entry => isRemoval engine image entry.2).isSome := by
      rw [List.find?_isSome]
      exact ⟨(side.other, y), by simp, removes⟩
    obtain ⟨⟨speaker, z⟩, found⟩ := Option.isSome_iff_exists.1 some_removal
    obtain ⟨zRemoves, quiet, later, parts, notBefore⟩ := List.find?_eq_some_iff_append.1 found
    have speaks : speaker = side.other := by
      have member : (speaker, z) ∈ between ++ [(side.other, y)] := parts ▸ by simp
      rcases List.mem_append.1 member with inside | last
      · rcases Side.eq_or_eq_other speaker side with same | other
        · exact absurd zRemoves (by rw [own _ inside same]; exact nofun)
        · exact other
      · exact congrArg Prod.fst (List.mem_singleton.1 last)
    have whole : before ++ (side, x) :: (between ++ (side.other, y) :: after) =
        (before ++ [(side, x)]) ++ quiet ++ (speaker, z) :: (later ++ after) := by
      have tail : between ++ (side.other, y) :: after = quiet ++ (speaker, z) :: (later ++ after) := by
        simpa using congrArg (· ++ after) parts
      simp [tail]
    rw [whole] at possible ⊢
    have started : holder engine image (before ++ [(side, x)]) = some side := by
      simp [holder_concat, nextHolder, starts]
    have kept : ∀ entry ∈ quiet, isRemoval engine image entry.2 = false := by
      intro entry member
      simpa using notBefore entry member
    have up := holder_kept (possible_of_append possible) started kept
    exact ⟨_, speaker, z, _, rfl, zRemoves, by rw [speaks, Side.other_other]; exact up⟩

/-! ### One call after the other -/

/-- While one call speaks alone, no container of the other call comes up. -/
theorem holderFrom_alone_ne {side : Side} {up : Option Side} (notUp : up ≠ some side.other) (said : List Exchange) :
    holderFrom engine image up (alone side said) ≠ some side.other := by
  induction said generalizing up with
  | nil => exact notUp
  | cons x said ih =>
      apply ih
      unfold nextHolder
      split
      · intro same
        exact Side.other_ne side (Option.some.inj same).symm
      · split
        · exact nofun
        · exact notUp

/-- A call that speaks alone removes no container of the other call, unless this is up before. -/
theorem not_disturbs_alone {side : Side} {up : Option Side} (notUp : up ≠ some side.other) (said : List Exchange) :
    ¬ Occurs engine image (Disturbs engine image) up (alone side said) := by
  rintro ⟨before, speaker, x, after, parts, -, found⟩
  obtain ⟨said₁, said₂, rfl, rfl, rest⟩ := List.map_eq_append_iff.1 parts
  obtain ⟨y, said₃, rfl, heq, -⟩ := List.map_eq_cons_iff.1 rest
  obtain ⟨rfl, rfl⟩ := Prod.mk.inj heq
  exact holderFrom_alone_ne notUp said₁ found

/-- What is said quietly changes nothing. -/
theorem holderFrom_alone_of_quiet {said : List Exchange} (quiet : ∀ x ∈ said, Quiet engine image x) (side : Side)
    (up : Option Side) : holderFrom engine image up (alone side said) = up := by
  induction said generalizing up with
  | nil => rfl
  | cons x said ih =>
      have both := List.forall_mem_cons.1 quiet
      have same : nextHolder engine image up (side, x) = up := by
        simp [nextHolder, both.1.1, both.1.2]
      change holderFrom engine image (nextHolder engine image up (side, x)) (alone side said) = up
      rw [same, ih both.2]

theorem holderFrom_removal (side : Side) (up : Option Side) (stopped removed : Except ExecFault CommandOutput) :
    holderFrom engine image up (alone side (removal engine (sanitizeName image) stopped removed)) = none := by
  have last : isRemoval engine image (.command (removeLine engine (sanitizeName image)) removed) = true :=
    isRemoval_of_mem_removal stopped removed (List.mem_cons_of_mem _ List.mem_cons_self)
  simp [alone, removal, holderFrom, nextHolder, last, isStart_of_isRemoval last]

/-- A fetch leaves no container behind. -/
theorem UsesContainer.holderFrom_alone {said : List Exchange} (h : UsesContainer engine image said) (side : Side)
    (up : Option Side) : holderFrom engine image up (alone side said) = none := by
  cases h with
  | mk stopped removed result stopped' removed' hopening hduring hclosing =>
      rw [← List.singleton_append]
      simp only [alone_append, holderFrom_append, holderFrom_removal, holderFrom_alone_of_quiet hclosing]

/-! ### One call during the other -/

/-- Where nothing is started no name clashes. -/
theorem not_clashes_alone {said : List Exchange} (quiet : ∀ x ∈ said, isStart engine image x = false) (side : Side)
    (up : Option Side) : ¬ Occurs engine image (Clashes engine image) up (alone side said) := by
  rintro ⟨before, speaker, x, after, parts, starts, -⟩
  have member : (speaker, x) ∈ alone side said := parts ▸ by simp
  obtain ⟨y, among, same⟩ := List.mem_map.1 member
  obtain ⟨rfl, rfl⟩ := Prod.mk.inj same
  rw [quiet y among] at starts
  exact nomatch starts

theorem isStart_removal {stopped removed : Except ExecFault CommandOutput} :
    ∀ x ∈ removal engine (sanitizeName image) stopped removed, isStart engine image x = false :=
  fun _ member => isStart_of_isRemoval (isRemoval_of_mem_removal _ _ member)

/-- A start behind a removal finds the name free. -/
theorem not_clashes_opening {opening : List Exchange} (quiet : ∀ x ∈ opening, Quiet engine image x) (side : Side)
    (up : Option Side) (stopped removed result : Except ExecFault CommandOutput) :
    ¬ Occurs engine image (Clashes engine image) up (alone side (opening ++
      (removal engine (sanitizeName image) stopped removed ++ [.command (startLine engine image) result]))) := by
  rw [alone_append, alone_append, occurs_append, occurs_append, holderFrom_removal]
  rintro (clash | clash | clash)
  · exact not_clashes_alone (fun x member => (quiet x member).1) side _ clash
  · exact not_clashes_alone isStart_removal side _ clash
  · rcases occurs_cons.1 clash with ⟨-, taken⟩ | later
    · exact taken rfl
    · exact not_clashes_alone (List.forall_mem_nil _) side _ later

/-- After its start a fetch starts nothing more. -/
theorem not_clashes_closing {during closing : List Exchange} (hduring : ∀ x ∈ during, Quiet engine image x)
    (hclosing : ∀ x ∈ closing, Quiet engine image x) (side : Side) (up : Option Side)
    (stopped removed : Except ExecFault CommandOutput) :
    ¬ Occurs engine image (Clashes engine image) up (alone side (during ++
      (removal engine (sanitizeName image) stopped removed ++ closing))) := by
  apply not_clashes_alone
  intro x member
  rcases List.mem_append.1 member with between | later
  · exact (hduring x between).1
  · rcases List.mem_append.1 later with removing | last
    · exact isStart_removal x removing
    · exact (hclosing x last).1

/-- A fetch that speaks alone takes the name of its container when it is free. -/
theorem UsesContainer.not_clashes_alone {said : List Exchange} (h : UsesContainer engine image said) (side : Side)
    (up : Option Side) : ¬ Occurs engine image (Clashes engine image) up (alone side said) := by
  cases h with
  | @mk opening during closing stopped removed result stopped' removed' hopening hduring hclosing =>
      have parts : opening ++ (removal engine (sanitizeName image) stopped removed ++
          (.command (startLine engine image) result ::
            (during ++ (removal engine (sanitizeName image) stopped' removed' ++ closing)))) =
          (opening ++ (removal engine (sanitizeName image) stopped removed ++
            [.command (startLine engine image) result])) ++
              (during ++ (removal engine (sanitizeName image) stopped' removed' ++ closing)) := by
        simp
      rw [parts, alone_append, occurs_append]
      rintro (clash | clash)
      · exact not_clashes_opening hopening side _ _ _ _ clash
      · exact not_clashes_closing hduring hclosing side _ _ _ clash

/-- A fetch asks for the removal of what is up when it begins. -/
theorem UsesContainer.disturbs_alone {said : List Exchange} (h : UsesContainer engine image said) (side : Side) :
    Occurs engine image (Disturbs engine image) (some side.other) (alone side said) := by
  cases h with
  | mk stopped removed result stopped' removed' hopening hduring hclosing =>
      rw [alone_append, occurs_append, holderFrom_alone_of_quiet hopening]
      right
      apply occurs_cons.2
      left
      exact ⟨isRemoval_of_mem_removal stopped removed List.mem_cons_self, rfl⟩

/-- Once one fetch has started its container, all of the other can come before the rest of it, and takes this
    container away. -/
theorem exists_disturbing_log {said said' : List Exchange} (h : UsesContainer engine image said)
    (started : ∃ x ∈ said, isStart engine image x = true) (h' : UsesContainer engine image said') :
    ∃ log, saidBy .first log = said ∧ saidBy .second log = said' ∧ Possible engine image log ∧
      Disturbed engine image log := by
  cases h with
  | @mk opening during closing stopped removed result stopped' removed' hopening hduring hclosing =>
      have running : isStart engine image (.command (startLine engine image) result) = true := by
        obtain ⟨x, member, starts⟩ := started
        simp only [List.mem_append, List.mem_cons] at member
        rcases member with opens | removing | rfl | between | removing | closes
        · exact absurd (hopening x opens) (not_quiet_of_isStart starts)
        · exact absurd starts (Bool.eq_false_iff.1 (isStart_removal x removing))
        · exact starts
        · exact absurd (hduring x between) (not_quiet_of_isStart starts)
        · exact absurd starts (Bool.eq_false_iff.1 (isStart_removal x removing))
        · exact absurd (hclosing x closes) (not_quiet_of_isStart starts)
      let front := opening ++ (removal engine (sanitizeName image) stopped removed ++
        [.command (startLine engine image) result])
      let back := during ++ (removal engine (sanitizeName image) stopped' removed' ++ closing)
      have up : holderFrom engine image none (alone .first front) = some .first := by
        simp only [front, alone_append, holderFrom_append, holderFrom_removal]
        simp [alone, holderFrom, nextHolder, running]
      exists alone .first front ++ (alone .second said' ++ alone .first back)
      constructor
      · have silent := saidBy_alone_other .second said'
        simp only [Side.other] at silent
        simp [silent, front, back]
      constructor
      · have silent := saidBy_alone_other .first
        simp only [Side.other] at silent
        simp [silent]
      constructor
      · unfold Possible
        rw [occurs_append, occurs_append]
        rintro (clash | clash | clash)
        · exact not_clashes_opening hopening .first _ _ _ _ clash
        · exact h'.not_clashes_alone .second _ clash
        · exact not_clashes_closing hduring hclosing .first _ _ _ clash
      · unfold Disturbed
        rw [occurs_append, occurs_append, up]
        right
        left
        exact h'.disturbs_alone .second

/-! ### Two fetches -/

/-- A call that says a removal uses a container. -/
theorem usesContainer_of_told {e : Environment} {paths : ToolPaths} {said : List Exchange}
    {v : Except EnvironmentFault ToolPaths} (told : (e.fetchPluginDocs paths : Program σ _).Tells said v)
    (busy : ∃ x ∈ said, ¬ Quiet e.engine e.image x) : UsesContainer e.engine e.image said := by
  rcases (converses_fetch_usesContainer e paths).of_tells told with quiet | uses
  · obtain ⟨x, member, notQuiet⟩ := busy
    exact absurd (quiet x member) notQuiet
  · exact uses

/-- A fetch leaves what is up as it was, or nothing. -/
theorem holderFrom_told {e : Environment} {paths : ToolPaths} {said : List Exchange}
    {v : Except EnvironmentFault ToolPaths} (told : (e.fetchPluginDocs paths : Program σ _).Tells said v)
    (side : Side) : holderFrom e.engine e.image none (alone side said) = none := by
  rcases (converses_fetch_usesContainer e paths).of_tells told with quiet | uses
  · exact holderFrom_alone_of_quiet quiet side none
  · exact uses.holderFrom_alone side none

/-- Two fetches out of one image. One after the other they remove only their own containers. In whatever order their
    commands come, one removes the container of the other exactly if it asks for a removal between the start of this
    container and its teardown. If the first starts its container and the second uses one too, there is an order in
    which this happens. -/
theorem fetches_share_container (e : Side → Environment) (paths : Side → ToolPaths)
    (same : ∀ side, (e side).engine = engine ∧ (e side).image = image) (said : Side → List Exchange)
    (v : Side → Except EnvironmentFault ToolPaths)
    (told : ∀ side, ((e side).fetchPluginDocs (paths side) : Program σ _).Tells (said side) (v side)) :
    ¬ Disturbed engine image (alone .first (said .first) ++ alone .second (said .second)) ∧
    (∀ log, (∀ side, saidBy side log = said side) → Possible engine image log →
      (Disturbed engine image log ↔ Crossed engine image log)) ∧
    ((∃ x ∈ said .first, isStart engine image x = true) → (∃ x ∈ said .second, isRemoval engine image x = true) →
      ∃ log, (∀ side, saidBy side log = said side) ∧ Possible engine image log ∧ Disturbed engine image log) := by
  obtain ⟨rfl, rfl⟩ := same .first
  obtain ⟨sameEngine, sameImage⟩ := same .second
  constructor
  · unfold Disturbed
    rw [occurs_append, holderFrom_told (told .first)]
    have free (side : Side) : none ≠ some side.other := nofun
    rintro (disturbs | disturbs)
    · exact not_disturbs_alone (free .first) _ disturbs
    · exact not_disturbs_alone (free .second) _ disturbs
  constructor
  · intro log _ possible
    exact disturbed_iff_crossed possible
  · rintro ⟨x, among, starts⟩ ⟨y, among', removes⟩
    have uses := usesContainer_of_told (told .first) ⟨x, among, not_quiet_of_isStart starts⟩
    have uses' : UsesContainer (e .first).engine (e .first).image (said .second) := by
      rw [← sameEngine, ← sameImage] at removes ⊢
      exact usesContainer_of_told (told .second) ⟨y, among', not_quiet_of_isRemoval removes⟩
    obtain ⟨log, first, second, possible, disturbed⟩ := exists_disturbing_log uses ⟨x, among, starts⟩ uses'
    refine ⟨log, ?_, possible, disturbed⟩
    intro side
    cases side with
    | first => exact first
    | second => exact second

/-- A world without files, in which all commands succeed and print the same. -/
def agreeing : (q : Query) → Unit → q.Answer × Unit
  | .run _, _ => (.ok { stdout := "4f1d" }, ())
  | .beginProgress _ _, _ => (none, ())
  | .seeFiles, _ => (.empty, ())
  | .createDirs _, _ => (.ok (), ())
  | .write _ _, _ => (.ok (), ())
  | .freshName, _ => ("", ())
  | .showError _, _ => ((), ())
  | .showInfo _, _ => ((), ())
  | .endProgress _, _ => ((), ())
  | .noteProgress _, _ => ((), ())
  | .log _ _, _ => ((), ())
  | .publish _ _, _ => ((), ())
  | .watchFiles, _ => ((), ())

/-- The environments of two folders with the same settings. -/
def folderEnvironment : Side → Environment
  | .first => { engine := .podman, settings := { image := "tools" }, root := "/work/a", host := {} }
  | .second => { engine := .podman, settings := { image := "tools" }, root := "/work/b", host := {} }

/-- What is said by the fetch of a folder in this world. -/
def folderFetch (side : Side) : List Exchange :=
  match ((folderEnvironment side).fetchPluginDocs {} : Program Unit _).run (recording agreeing) () ((), []) with
  | .finished _ _ world => world.2
  | _ => []

theorem told_folderFetch (side : Side) :
    ∃ v, ((folderEnvironment side).fetchPluginDocs {} : Program Unit _).Tells (folderFetch side) v := by
  obtain ⟨v, w, said, finished, -⟩ :=
    ((folderEnvironment side).converses_fetchPluginDocs (σ := Unit) {}).run agreeing () () []
  obtain ⟨log, same, told⟩ := Program.tells_run finished
  exists v
  rw [folderFetch, finished]
  dsimp only
  rwa [same]

/-- One folder after the other fetches undisturbed. -/
theorem folders_fetch_one_after_the_other :
    ¬ Disturbed .podman "tools" (alone .first (folderFetch .first) ++ alone .second (folderFetch .second)) := by
  have told := fun side => (told_folderFetch side).choose_spec
  have same : ∀ side, (folderEnvironment side).engine = .podman ∧ (folderEnvironment side).image = "tools" := by
    intro side
    cases side with
    | first => exact ⟨rfl, rfl⟩
    | second => exact ⟨rfl, rfl⟩
  exact (fetches_share_container folderEnvironment (fun _ => {}) same folderFetch _ told).1

/-- The second folder takes the container of the first away while this copies out of it. -/
theorem second_folder_removes_container_of_first : ∃ log,
    (∀ side, ∃ v, ((folderEnvironment side).fetchPluginDocs {} : Program Unit _).Tells (saidBy side log) v) ∧
    Possible .podman "tools" log ∧ Disturbed .podman "tools" log := by
  have removes (side : Side) : ∃ x ∈ folderFetch side, isRemoval .podman "tools" x = true := by
    cases side with
    | first => exact List.any_eq_true.1 (by decide +kernel)
    | second => exact List.any_eq_true.1 (by decide +kernel)
  have starts : ∃ x ∈ folderFetch .first, isStart .podman "tools" x = true :=
    List.any_eq_true.1 (by decide +kernel)
  have uses (side : Side) : UsesContainer .podman "tools" (folderFetch side) := by
    obtain ⟨v, told⟩ := told_folderFetch side
    obtain ⟨x, member, removal⟩ := removes side
    cases side with
    | first => exact usesContainer_of_told told ⟨x, member, not_quiet_of_isRemoval removal⟩
    | second => exact usesContainer_of_told told ⟨x, member, not_quiet_of_isRemoval removal⟩
  obtain ⟨log, first, second, possible, disturbed⟩ := exists_disturbing_log (uses .first) starts (uses .second)
  refine ⟨log, ?_, possible, disturbed⟩
  intro side
  cases side with
  | first => exact first ▸ told_folderFetch .first
  | second => exact second ▸ told_folderFetch .second

end PlaybookServer.Container

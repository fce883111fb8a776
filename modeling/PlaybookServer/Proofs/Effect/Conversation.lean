/-
Module: PlaybookServer.Proofs.Effect.Conversation
Purpose: What is said between a program and the world: its questions with their answers, in order. A program
  converses if, whatever it is answered and whatever state it finds, it comes to an end without waiting for others
  and without changing the state, and what was said and what it returns are as promised. Run in any world that
  answers everything, such a program finishes, and the record of that run keeps the promise.
Main exports: Exchange, commandLines, Program.Converses, Program.converses_bind, Program.Says, Program.Tells,
  recording, Program.Converses.run, Program.tells_run
-/
import PlaybookServer.Proofs.Effect.Program

namespace PlaybookServer.Effect

/-- A question and its answer. -/
structure Exchange where
  question : Query
  answer : question.Answer

namespace Exchange

/-- A command and how it ended. -/
abbrev command (line : String) (result : Except ExecFault CommandOutput) : Exchange :=
  ⟨.run { command := line }, result⟩

/-- The command line that a question asks to run. -/
def commandLine? (x : Exchange) : Option String :=
  match x.question with
  | .run request => some request.command
  | _ => none

end Exchange

/-- The command lines of a conversation, in order. -/
def commandLines (said : List Exchange) : List String := said.filterMap Exchange.commandLine?

@[simp] theorem commandLines_nil : commandLines [] = [] := rfl

@[simp] theorem commandLines_command (line : String) (result : Except ExecFault CommandOutput)
    (said : List Exchange) : commandLines (.command line result :: said) = line :: commandLines said := rfl

@[simp] theorem commandLines_append (said said' : List Exchange) :
    commandLines (said ++ said') = commandLines said ++ commandLines said' := by
  simp only [commandLines, List.filterMap_append]

namespace Program

variable {σ α β : Type}

/-- Whatever a program is answered and whatever state it finds, it ends by itself, and what was said and what it
    returns are as promised. -/
def Converses : Program σ α → (List Exchange → α → Prop) → Prop
  | .done v, promised => promised [] v
  | .ask q next, promised => ∀ a, (next a).Converses fun said v => promised (⟨q, a⟩ :: said) v
  | .look next, promised => ∀ s, (next s).Converses promised
  | .change _ _, _ => False
  | .wait _ _, _ => False

theorem Converses.mono {promised promised' : List Exchange → α → Prop} {p : Program σ α}
    (h : p.Converses promised) (himp : ∀ said v, promised said v → promised' said v) :
    p.Converses promised' := by
  induction p generalizing promised promised' with
  | done v => exact himp [] v h
  | ask q next ih => exact fun a => ih a (h a) fun said v hv => himp _ v hv
  | look next ih => exact fun s => ih s (h s) himp
  | change f next ih => exact h
  | wait ready next ih => exact h

/-- A sequence: the second part goes on where the first part left off. -/
theorem converses_bind (promised : List Exchange → β → Prop) (p : Program σ α) (f : α → Program σ β) :
    (p.bind f).Converses promised ↔
      p.Converses fun said v => (f v).Converses fun said' u => promised (said ++ said') u := by
  induction p generalizing promised with
  | done v => exact Iff.rfl
  | ask q next ih => exact forall_congr' fun a => ih a _
  | look next ih => exact forall_congr' fun s => ih s _
  | change g next ih => exact Iff.rfl
  | wait ready next ih => exact Iff.rfl

theorem Converses.bind {between : List Exchange → α → Prop} {promised : List Exchange → β → Prop}
    {p : Program σ α} {f : α → Program σ β} (hp : p.Converses between)
    (hf : ∀ said v, between said v → (f v).Converses fun said' u => promised (said ++ said') u) :
    (p >>= f).Converses promised :=
  (converses_bind promised p f).2 (hp.mono hf)

/-- Whatever a program is answered it ends by itself, and everything that is said is of one kind. -/
def Says (p : Program σ α) (kind : Exchange → Prop) : Prop := p.Converses fun said _ => ∀ x ∈ said, kind x

theorem Says.bind {kind : Exchange → Prop} {p : Program σ α} {f : α → Program σ β} (hp : p.Says kind)
    (hf : ∀ v, (f v).Says kind) : (p >>= f).Says kind := by
  refine Converses.bind hp fun said v hsaid => ?_
  refine (hf v).mono fun said' _ hsaid' => ?_
  exact List.forall_mem_append.2 ⟨hsaid, hsaid'⟩

/-- A conversation that a program can have: its questions with some answers, in whatever states it finds, up to what
    it returns. -/
def Tells : Program σ α → List Exchange → α → Prop
  | .done v, said, u => said = [] ∧ u = v
  | .ask q next, said, u => ∃ a later, said = ⟨q, a⟩ :: later ∧ (next a).Tells later u
  | .look next, said, u => ∃ s, (next s).Tells said u
  | .change _ next, said, u => next.Tells said u
  | .wait _ next, said, u => next.Tells said u

/-- What a program promises holds of every conversation that it can have. -/
theorem Converses.of_tells {promised : List Exchange → α → Prop} {p : Program σ α} (h : p.Converses promised)
    {said : List Exchange} {v : α} (told : p.Tells said v) : promised said v := by
  induction p generalizing promised said with
  | done u =>
      obtain ⟨rfl, rfl⟩ := told
      exact h
  | ask q next ih =>
      obtain ⟨a, later, rfl, told⟩ := told
      exact ih a (h a) told
  | look next ih =>
      obtain ⟨s, told⟩ := told
      exact ih s (h s) told
  | change f next ih => exact absurd h id
  | wait ready next ih => exact absurd h id

end Program

section Parts

variable {σ : Type}

theorem converses_ask (q : Query) :
    (ask q : Program σ q.Answer).Converses fun said a => said = [⟨q, a⟩] :=
  fun _ => rfl

theorem says_pure {α : Type} (v : α) (kind : Exchange → Prop) : (pure v : Program σ α).Says kind :=
  List.forall_mem_nil kind

theorem says_ask {q : Query} {kind : Exchange → Prop} (h : ∀ a, kind ⟨q, a⟩) :
    (ask q : Program σ q.Answer).Says kind :=
  fun a => List.forall_mem_singleton.2 (h a)

theorem converses_look {α : Type} (f : σ → α) : (look f).Converses fun said _ => said = [] :=
  fun _ => rfl

theorem converses_runLine (line : String) :
    (runLine line : Program σ _).Converses fun said result => said = [.command line result] :=
  converses_ask (.run { command := line })

/-- The end of a progress indicator is told if one was started. -/
def ending : Option String → List Exchange
  | some token => [⟨.endProgress token, ()⟩]
  | none => []

theorem converses_endProgress (token : Option String) :
    (endProgress token : Program σ _).Converses fun said _ => said = ending token := by
  cases token with
  | none => exact rfl
  | some token => exact fun _ => rfl

end Parts

/-! ### Worlds that answer everything -/

/-- A world that answers every question and keeps a record of what was said. -/
def recording {ω : Type} (answer : (q : Query) → ω → q.Answer × ω) : Answers (ω × List Exchange) :=
  fun q w => (some (answer q w.1).1, (answer q w.1).2, w.2 ++ [⟨q, (answer q w.1).1⟩])

/-- A world in which commands end well and print nothing, and there are no files. -/
def silentWorld : (q : Query) → Unit → q.Answer × Unit
  | .run _, _ => (.ok {}, ())
  | .showError _, _ => ((), ())
  | .showInfo _, _ => ((), ())
  | .beginProgress _ _, _ => (none, ())
  | .endProgress _, _ => ((), ())
  | .noteProgress _, _ => ((), ())
  | .seeFiles, _ => (Files.FileView.empty, ())
  | .createDirs _, _ => (.ok (), ())
  | .write _ _, _ => (.ok (), ())
  | .freshName, _ => ("", ())
  | .log _ _, _ => ((), ())
  | .publish _ _, _ => ((), ())
  | .watchFiles, _ => ((), ())

/-- In a world that answers everything a program that converses finishes, and leaves the state as it is. -/
theorem Program.Converses.run {σ α ω : Type} {promised : List Exchange → α → Prop} {p : Program σ α}
    (h : p.Converses promised) (answer : (q : Query) → ω → q.Answer × ω) (s : σ) (w : ω)
    (before : List Exchange) : ∃ v w' said,
      p.run (recording answer) s (w, before) = .finished v s (w', before ++ said) ∧ promised said v := by
  induction p generalizing promised w before with
  | done v => exact ⟨v, w, [], by rw [List.append_nil]; rfl, h⟩
  | ask q next ih =>
      obtain ⟨v, w', said, hrun, hsaid⟩ :=
        ih (answer q w).1 (h (answer q w).1) (answer q w).2 (before ++ [⟨q, (answer q w).1⟩])
      refine ⟨v, w', ⟨q, (answer q w).1⟩ :: said, ?_, hsaid⟩
      rw [List.append_assoc] at hrun
      exact hrun
  | look next ih => exact ih s (h s) w before
  | change f next ih => exact absurd h id
  | wait ready next ih => exact absurd h id

/-- The record of a run that finishes is a conversation of the program. -/
theorem Program.tells_run {σ α ω : Type} {answer : (q : Query) → ω → q.Answer × ω} {p : Program σ α} {s s' : σ}
    {w w' : ω} {v : α} {before log : List Exchange}
    (finished : p.run (recording answer) s (w, before) = .finished v s' (w', log)) :
    ∃ said, log = before ++ said ∧ p.Tells said v := by
  induction p generalizing s w before with
  | done u =>
      cases finished
      exact ⟨[], (List.append_nil _).symm, rfl, rfl⟩
  | ask q next ih =>
      obtain ⟨said, hlog, told⟩ := ih (answer q w).1 finished
      exact ⟨⟨q, (answer q w).1⟩ :: said, by rw [hlog, List.append_assoc]; rfl, _, said, rfl, told⟩
  | look next ih =>
      obtain ⟨said, hlog, told⟩ := ih s finished
      exact ⟨said, hlog, s, told⟩
  | change f next ih => exact ih finished
  | wait ready next ih =>
      simp only [Program.run] at finished
      split at finished
      next => exact ih finished
      next => exact nomatch finished

end PlaybookServer.Effect

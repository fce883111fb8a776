/-
Module: PlaybookServer.Proofs.Tool.Activation
Purpose: What a shell makes of a command that runs behind an activation script. A line is read word by word; the
  command and the script stand together between single quotes, as one word for a second shell. Nothing guards the
  single quotes of the command, and each of them ends the quoted text early: a reading that does so is too short for
  the word. So the line has the words it is meant to have exactly if the command has no single quote.
Main exports: ReadsLine, ReadsLine.unique, short_of_readsWord, readsLine_quoted_iff,
  activated_command_is_three_words_iff
-/
import PlaybookServer.Proofs.Text.Trim
import PlaybookServer.Proofs.Tool.Words
import PlaybookServer.Tool.Runner

namespace PlaybookServer.Tool

open Text Lint
open Simulation.Shell (endsWord)

/-! ### Reading a line -/

/-- Whether a character stands between words. -/
def isGap (c : Char) : Bool := c = ' ' || c = '\t'

/-- Whether a word starts with a text. A line that is joined with the next starts none. -/
def startsWord : List Char → Bool
  | [] => false
  | '\\' :: '\n' :: _ => false
  | c :: _ => !endsWord c

/-- A text is a line of words that have values. Nothing reads an operator. -/
inductive ReadsLine : (text : List Char) → (values : List (List Char)) → Prop where
  | ends : ReadsLine [] []
  | gap {c : Char} {cs : List Char} {values : List (List Char)} (blank : isGap c = true)
      (rest : ReadsLine cs values) : ReadsLine (c :: cs) values
  | joined {cs : List Char} {values : List (List Char)} (rest : ReadsLine cs values) :
      ReadsLine ('\\' :: '\n' :: cs) values
  | word {text value following : List Char} {values : List (List Char)} (starts : startsWord text = true)
      (reads : ReadsWord .plain text value following) (rest : ReadsLine following values) :
      ReadsLine text (value :: values)

section Line

variable {c : Char} {cs text : List Char} {values values' : List (List Char)}

theorem startsWord_of_isGap (blank : isGap c = true) : startsWord (c :: cs) = false := by
  simp only [isGap, Bool.or_eq_true, decide_eq_true_eq] at blank
  rcases blank with rfl | rfl <;> rfl

/-- There is one way to read a line. -/
theorem ReadsLine.unique (reads : ReadsLine text values) (reads' : ReadsLine text values') : values = values' := by
  induction reads generalizing values' with
  | ends =>
      cases reads' with
      | ends => rfl
      | word starts => cases starts
  | gap blank _ ih =>
      cases reads' with
      | gap _ rest => exact ih rest
      | joined => cases blank
      | word starts => simp [startsWord_of_isGap blank] at starts
  | joined _ ih =>
      cases reads' with
      | gap blank => cases blank
      | joined rest => exact ih rest
      | word starts => cases starts
  | word starts reads _ ih =>
      cases reads' with
      | ends => cases starts
      | gap blank => simp [startsWord_of_isGap blank] at starts
      | joined => cases starts
      | word _ reads' rest =>
          obtain ⟨rfl, rfl⟩ := reads.unique reads'
          rw [ih rest]

/-- What stands behind a word decides about the words that follow it. -/
theorem readsLine_word_iff {value following : List Char} (starts : startsWord text = true)
    (reads : ReadsWord .plain text value following) :
    ReadsLine text values ↔ ∃ later, values = value :: later ∧ ReadsLine following later := by
  constructor
  · intro line
    cases line with
    | ends => cases starts
    | gap blank => simp [startsWord_of_isGap blank] at starts
    | joined => cases starts
    | word _ reads' rest =>
        obtain ⟨rfl, rfl⟩ := reads.unique reads'
        exact ⟨_, rfl, rest⟩
  · rintro ⟨later, rfl, rest⟩
    exact .word starts reads rest

theorem readsLine_gap_iff (blank : isGap c = true) : ReadsLine (c :: cs) values ↔ ReadsLine cs values := by
  constructor
  · intro line
    cases line with
    | gap _ rest => exact rest
    | joined => cases blank
    | word starts => simp [startsWord_of_isGap blank] at starts
  · exact .gap blank

end Line

/-! ### Single quotes -/

section Quotes

variable {q : Quoting} {cs text value following : List Char}

/-- A value is no longer than what was read for it, and shorter if it has a single quote and the reading began outside
    quotes: at the latest the quotes around that one are lost. -/
theorem short_of_readsWord (reads : ReadsWord q text value following) :
    value.length + following.length ≤ text.length ∧
    (q = .plain → '\'' ∈ value → value.length + following.length < text.length) := by
  induction reads with
  | ends => simp
  | @literal q c cs value following stands _ ih =>
      simp only [List.length_cons]
      refine ⟨by omega, ?_⟩
      rintro rfl among
      have other : '\'' ≠ c := by
        rintro rfl
        cases stands
      have less := ih.2 rfl (List.mem_of_ne_of_mem other among)
      omega
  | idle _ _ ih =>
      simp only [List.length_cons]
      exact ⟨by omega, by simp⟩
  | openDouble _ ih | closeDouble _ ih | openSingle _ ih | closeSingle _ ih | escaped _ _ ih | guarded _ _ ih
  | joined _ _ ih =>
      simp only [List.length_cons]
      constructor <;> intros <;> omega

theorem readsWord_openSingle_iff :
    ReadsWord .plain ('\'' :: cs) value following ↔ ReadsWord .single cs value following := by
  constructor
  · intro reads
    cases reads with
    | ends atEnd => exact absurd (atEnd _ rfl) (by decide)
    | literal stands => cases stands
    | openSingle rest => exact rest
  · exact .openSingle

theorem readsWord_closeSingle_iff :
    ReadsWord .single ('\'' :: cs) value following ↔ ReadsWord .plain cs value following := by
  constructor
  · intro reads
    cases reads with
    | literal stands => cases stands
    | closeSingle rest => exact rest
  · exact .closeSingle

theorem readsWord_single_cons_iff {c : Char} (other : c ≠ '\'') : ReadsWord .single (c :: cs) value following ↔
    ∃ later, value = c :: later ∧ ReadsWord .single cs later following := by
  constructor
  · intro reads
    cases reads with
    | literal _ rest => exact ⟨_, rfl, rest⟩
    | closeSingle => exact absurd rfl other
    | joined outside => exact absurd rfl outside
  · rintro ⟨later, rfl, rest⟩
    exact .literal (by simpa [isLiteral] using other) rest

/-- Text without single quotes stands for itself between them. -/
theorem readsWord_single_append_iff (noQuote : '\'' ∉ cs) : ReadsWord .single (cs ++ text) value following ↔
    ∃ later, value = cs ++ later ∧ ReadsWord .single text later following := by
  induction cs generalizing value with
  | nil => simp
  | cons c cs ih =>
      have other : c ≠ '\'' := Ne.symm (List.ne_of_not_mem_cons noQuote)
      have free : '\'' ∉ cs := List.not_mem_of_not_mem_cons noQuote
      rw [List.cons_append, readsWord_single_cons_iff other]
      constructor
      · rintro ⟨value, rfl, reads⟩
        obtain ⟨later, rfl, rest⟩ := (ih free).1 reads
        exact ⟨later, rfl, rest⟩
      · rintro ⟨later, rfl, rest⟩
        exact ⟨cs ++ later, rfl, (ih free).2 ⟨later, rfl, rest⟩⟩

/-- Between single quotes a text without any is one word, whose value it is. -/
theorem readsWord_quoted {body : List Char} (noQuote : '\'' ∉ body) :
    ReadsWord .plain ('\'' :: (body ++ ['\''])) body [] := by
  have closed : ReadsWord .single ['\''] [] [] := .closeSingle (.ends (by simp))
  rw [readsWord_openSingle_iff, readsWord_single_append_iff noQuote]
  exact ⟨[], (List.append_nil body).symm, closed⟩

/-- A text is not read from between single quotes if it has one itself. -/
theorem notMem_of_readsWord_quoted {body : List Char}
    (reads : ReadsWord .plain ('\'' :: (body ++ ['\''])) body following) : '\'' ∉ body := by
  intro among
  obtain ⟨front, back, rfl, noQuote⟩ := List.eq_append_cons_of_mem among
  rw [List.append_assoc, List.cons_append, readsWord_openSingle_iff, readsWord_single_append_iff noQuote] at reads
  obtain ⟨later, same, reads⟩ := reads
  obtain rfl := List.append_cancel_left same
  -- What is left of the text has the length of what is left of the value.
  have less := (short_of_readsWord (readsWord_closeSingle_iff.1 reads)).2 rfl List.mem_cons_self
  simp only [List.length_cons, List.length_append, List.length_nil] at less
  omega

/-- A word of plain characters is read up to the blank behind it. -/
theorem readsWord_plain {word : List Char} (stands : ∀ c ∈ word, isLiteral .plain c = true)
    (atEnd : ∀ c ∈ following.head?, endsWord c = true) : ReadsWord .plain (word ++ following) word following := by
  induction word with
  | nil => exact .ends atEnd
  | cons c word ih =>
      exact .literal (stands c List.mem_cons_self) (ih fun d among => stands d (List.mem_cons_of_mem c among))

theorem startsWord_of_isLiteral {c : Char} (stands : isLiteral .plain c = true) : startsWord (c :: cs) = true := by
  have word : endsWord c = false := by
    simp only [isLiteral, Bool.and_eq_true, Bool.not_eq_true'] at stands
    exact stands.2
  rw [startsWord]
  · rw [word]
    rfl
  · rintro rest rfl
    cases stands

theorem readsLine_plain_iff {c : Char} {word more : List Char} {values : List (List Char)}
    (stands : ∀ d ∈ c :: word, isLiteral .plain d = true) :
    ReadsLine (c :: word ++ ' ' :: more) values ↔ ∃ later, values = (c :: word) :: later ∧ ReadsLine more later := by
  have starts : startsWord (c :: word ++ ' ' :: more) = true := startsWord_of_isLiteral (stands c List.mem_cons_self)
  have atEnd : ∀ d ∈ (' ' :: more).head?, endsWord d = true := by simp [endsWord]
  have gap : ∀ later, ReadsLine (' ' :: more) later ↔ ReadsLine more later := fun _ => readsLine_gap_iff rfl
  rw [readsLine_word_iff starts (readsWord_plain stands atEnd)]
  simp only [gap]

/-- A line that hands a quoted text to a second shell has the words it is meant to have exactly if the text has no
    single quote. -/
theorem readsLine_quoted_iff (body : List Char) :
    ReadsLine ("bash -c ".toList ++ '\'' :: (body ++ ['\''])) ["bash".toList, "-c".toList, body] ↔ '\'' ∉ body := by
  have first : ∀ d ∈ "bash".toList, isLiteral .plain d = true := List.all_eq_true.1 rfl
  have second : ∀ d ∈ "-c".toList, isLiteral .plain d = true := List.all_eq_true.1 rfl
  have words : "bash -c ".toList ++ '\'' :: (body ++ ['\'']) =
      "bash".toList ++ ' ' :: ("-c".toList ++ ' ' :: '\'' :: (body ++ ['\''])) := rfl
  rw [words]
  constructor
  · intro line
    obtain ⟨_, same, line⟩ := (readsLine_plain_iff first).1 line
    obtain rfl := (List.cons.inj same).2
    obtain ⟨_, same, line⟩ := (readsLine_plain_iff second).1 line
    obtain rfl := (List.cons.inj same).2
    cases line with
    | gap blank => cases blank
    | word _ reads _ => exact notMem_of_readsWord_quoted reads
  · intro noQuote
    apply (readsLine_plain_iff first).2 ⟨_, rfl, ?_⟩
    apply (readsLine_plain_iff second).2 ⟨_, rfl, ?_⟩
    exact .word rfl (readsWord_quoted noQuote) .ends

end Quotes

/-! ### Commands behind an activation script -/

/-- The runner without its activation script. -/
def Runner.inactive (r : Runner) : Runner :=
  { r with settings := { r.settings with interpreter := { r.settings.interpreter with activationScript := "" } } }

/-- The path of the activation script. -/
def Runner.scriptPath (r : Runner) : String := r.configuredPath r.settings.interpreter.activationScript

section Commands

variable {r : Runner} {executable args : String}

theorem command_inactive (r : Runner) (executable args : String) :
    (r.inactive.withInterpreter executable args).command = joinCommand executable args := by
  rw [Runner.withInterpreter, if_neg (by simp [Runner.inactive])]
  split <;> rfl

/-- Behind the script stands the command that runs without it. -/
theorem toList_command_activated (activated : r.settings.interpreter.activationScript ≠ "") :
    (r.withInterpreter executable args).command.toList = "bash -c ".toList ++ '\'' ::
      (("source " ++ r.scriptPath ++ " && " ++ (r.inactive.withInterpreter executable args).command).toList ++
        ['\'']) := by
  rw [command_inactive]
  simp only [Runner.withInterpreter, if_pos activated, Runner.scriptPath]
  simp [String.toList_append]

/-- A quoted path has the single quotes of the path. -/
theorem single_mem_quote {path : String} (among : '\'' ∈ path.toList) : '\'' ∈ (quote path).toList := by
  rw [toList_quote, List.mem_cons, List.mem_append]
  right
  left
  rw [← List.count_pos_iff, (count_guardQuotes path.toList).1, List.count_pos_iff]
  exact among

/-- The command of the linter has the single quotes of the document's path. -/
theorem single_mem_lint_command (settings : LintSettings) (config : ConfigChoice) {path : String}
    (among : '\'' ∈ path.toList) :
    '\'' ∈ (r.inactive.withInterpreter executable (lintArguments settings config path)).command.toList := by
  obtain ⟨before, ends⟩ := lintArguments_eq_append settings config path
  have inArgs : '\'' ∈ (lintArguments settings config path).toList := by
    rw [ends, String.toList_append]
    exact List.mem_append_right _ (single_mem_quote among)
  have notBlank : isBlankLine (lintArguments settings config path).toList = false := by
    rw [isBlankLine_eq_false_iff]
    exact ⟨'\'', inArgs, rfl⟩
  rw [command_inactive, joinCommand, notBlank, if_neg Bool.false_ne_true, String.toList_append]
  exact List.mem_append_right _ inArgs

end Commands

/-- Behind an activation script whose path has no single quote, a shell reads the line as exactly `bash`, `-c` and the
    script with the command that runs without one, if and only if that command has no single quote. The command of
    the linter has those of the document's path: quoting the path does nothing about them. -/
theorem activated_command_is_three_words_iff (r : Runner) (executable args : String)
    (activated : r.settings.interpreter.activationScript ≠ "") (script : '\'' ∉ r.scriptPath.toList) :
    ('\'' ∉ (r.inactive.withInterpreter executable args).command.toList ↔
      ∀ values, ReadsLine (r.withInterpreter executable args).command.toList values ↔
        values = ["bash".toList, "-c".toList,
          ("source " ++ r.scriptPath ++ " && " ++ (r.inactive.withInterpreter executable args).command).toList]) ∧
    ∀ settings config path, '\'' ∈ path.toList →
      '\'' ∈ (r.inactive.withInterpreter executable (lintArguments settings config path)).command.toList := by
  refine ⟨?_, fun settings config path among => single_mem_lint_command settings config among⟩
  rw [toList_command_activated activated]
  generalize (r.inactive.withInterpreter executable args).command = command
  have whole : '\'' ∉ ("source " ++ r.scriptPath ++ " && " ++ command).toList ↔ '\'' ∉ command.toList := by
    simp only [String.toList_append, List.mem_append, script]
    simp
  rw [← whole]
  constructor
  · intro noQuote values
    have line := (readsLine_quoted_iff _).2 noQuote
    constructor
    · intro reads
      exact reads.unique line
    · rintro rfl
      exact line
  · intro words
    exact (readsLine_quoted_iff _).1 ((words _).2 rfl)

/-- Commands run behind the script `/opt/env/activate`. -/
def activatedRunner : Runner where
  settings := { ({} : Settings) with interpreter := { activationScript := "/opt/env/activate" } }
  root := "/work"
  host := {}

/-- A document whose path has a blank, and double quotes around it. -/
theorem path_with_blank_behind_script :
    activatedRunner.settings.interpreter.activationScript ≠ "" ∧ '\'' ∉ activatedRunner.scriptPath.toList ∧
    ReadsLine (activatedRunner.withInterpreter "ansible-lint" "\"/work/my site.yml\"").command.toList
      ["bash".toList, "-c".toList,
        "source /opt/env/activate && ansible-lint \"/work/my site.yml\"".toList] := by
  have activated : activatedRunner.settings.interpreter.activationScript ≠ "" := by decide
  have script : '\'' ∉ activatedRunner.scriptPath.toList := by decide
  have words :=
    activated_command_is_three_words_iff activatedRunner "ansible-lint" "\"/work/my site.yml\"" activated script
  refine ⟨activated, script, ?_⟩
  exact ((words.1.1 (by decide)) _).2 (by decide)

/-- A single quote in the path of a document ends the quoted text behind the script. -/
theorem single_quote_in_path_ends_command :
    activatedRunner.settings.interpreter.activationScript ≠ "" ∧ '\'' ∉ activatedRunner.scriptPath.toList ∧
    ¬ ReadsLine (activatedRunner.withInterpreter "ansible-lint" (quote "/work/it's.yml")).command.toList
      ["bash".toList, "-c".toList, ("source " ++ activatedRunner.scriptPath ++ " && " ++
        (activatedRunner.inactive.withInterpreter "ansible-lint" (quote "/work/it's.yml")).command).toList] := by
  have activated : activatedRunner.settings.interpreter.activationScript ≠ "" := by decide
  refine ⟨activated, by decide, fun line => ?_⟩
  rw [toList_command_activated activated] at line
  exact (readsLine_quoted_iff _).1 line (by decide)

end PlaybookServer.Tool

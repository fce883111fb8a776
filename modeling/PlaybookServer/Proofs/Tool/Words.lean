/-
Module: PlaybookServer.Proofs.Tool.Words
Purpose: What a shell makes of a quoted path. A word is read character by character, plainly or between quotes of
  either kind; it has a value of its own as long as nothing in it is expanded. Between double quotes a backslash takes
  their meaning from the characters that have one there, and is itself taken off. Quoting a path takes the meaning of
  its double quotes only, so the path is read back exactly if it has no dollar sign or backward quote and no backslash
  that is taken off.
Main exports: Quoting, ReadsWord, Consumes, consumes_of_readsWord, KeptInQuotes, toList_quote,
  quoted_path_is_one_word_iff
-/
import PlaybookServer.Lint.Run
import PlaybookServer.Proofs.Text.Pieces
import PlaybookServer.Simulation.Shell.Word
import Mathlib.Data.List.Count

namespace PlaybookServer.Tool

open Text Lint
open Simulation.Shell (endsWord isBackQuote)

/-! ### Reading a word -/

/-- What a character of a word stands between. -/
inductive Quoting where
  | plain
  | single
  | double
deriving DecidableEq, Repr, Inhabited

/-- Whether an expansion starts at a character that no backslash or single quote takes its meaning from. -/
def startsExpansion (c : Char) : Bool := c = '$' || isBackQuote c

/-- Whether a plain character can make a pattern, a home directory or a comment of its word. -/
def isActive (c : Char) : Bool := ['*', '?', '[', '~', '#'].contains c

/-- Whether a backslash between double quotes takes its meaning from a character. -/
def isGuarded (c : Char) : Bool := c = '"' || c = '\\' || startsExpansion c

/-- Whether a character stands for itself, without a backslash. -/
def isLiteral : Quoting → Char → Bool
  | .single, c => c ≠ '\''
  | .double, c => c ≠ '"' && c ≠ '\\' && !startsExpansion c
  | .plain, c => c ≠ '"' && c ≠ '\'' && c ≠ '\\' && !startsExpansion c && !isActive c && !endsWord c

/-- A text starts with the rest of a word that has a value and that another text follows. Nothing reads a character at
    which an expansion starts. -/
inductive ReadsWord : Quoting → (text value following : List Char) → Prop where
  | ends {following : List Char} (atEnd : ∀ c ∈ following.head?, endsWord c = true) :
      ReadsWord .plain following [] following
  | literal {q : Quoting} {c : Char} {cs value following : List Char} (stands : isLiteral q c = true)
      (rest : ReadsWord q cs value following) : ReadsWord q (c :: cs) (c :: value) following
  | openDouble {cs value following : List Char} (rest : ReadsWord .double cs value following) :
      ReadsWord .plain ('"' :: cs) value following
  | closeDouble {cs value following : List Char} (rest : ReadsWord .plain cs value following) :
      ReadsWord .double ('"' :: cs) value following
  | openSingle {cs value following : List Char} (rest : ReadsWord .single cs value following) :
      ReadsWord .plain ('\'' :: cs) value following
  | closeSingle {cs value following : List Char} (rest : ReadsWord .plain cs value following) :
      ReadsWord .single ('\'' :: cs) value following
  | escaped {c : Char} {cs value following : List Char} (sameLine : c ≠ '\n')
      (rest : ReadsWord .plain cs value following) : ReadsWord .plain ('\\' :: c :: cs) (c :: value) following
  | guarded {c : Char} {cs value following : List Char} (guards : isGuarded c = true)
      (rest : ReadsWord .double cs value following) : ReadsWord .double ('\\' :: c :: cs) (c :: value) following
  /-- A backslash that takes no meaning stands for itself. -/
  | idle {cs value following : List Char} (idle : ∀ c ∈ cs.head?, isGuarded c = false ∧ c ≠ '\n')
      (rest : ReadsWord .double cs value following) : ReadsWord .double ('\\' :: cs) ('\\' :: value) following
  /-- A backslash at the end of a line joins it with the next. -/
  | joined {q : Quoting} {cs value following : List Char} (outside : q ≠ .single)
      (rest : ReadsWord q cs value following) : ReadsWord q ('\\' :: '\n' :: cs) value following

/-- What a reading takes for a value. It takes each single quote of the value; and if it takes no others, each double
    quote of the value costs it a backslash besides those of the value. -/
structure Consumes (taken value : List Char) : Prop where
  singles : value.count '\'' ≤ taken.count '\''
  backslashes : value.count '\'' = taken.count '\'' → value.count '\\' + value.count '"' ≤ taken.count '\\'

section Reading

variable {q : Quoting} {text value following taken : List Char}

/-- What takes no single quotes without keeping them, and a backslash for each double quote that it keeps, goes on as
    a reading does. -/
theorem Consumes.more (consumes : Consumes taken value) (took kept : List Char)
    (singles : kept.count '\'' ≤ took.count '\'')
    (backslashes : kept.count '\\' + kept.count '"' ≤ took.count '\\') :
    Consumes (took ++ taken) (kept ++ value) where
  singles := by
    have rest := consumes.singles
    rw [List.count_append, List.count_append]
    omega
  backslashes := by
    intro same
    have rest := consumes.singles
    simp only [List.count_append] at same ⊢
    have equal := consumes.backslashes (by omega)
    omega

/-- A reading takes a part of the text for the value, and the rest follows. Inside single quotes it also takes the
    quote that closes them. -/
theorem consumes_of_readsWord (reads : ReadsWord q text value following) : ∃ taken, text = taken ++ following ∧
    Consumes taken value ∧ (q = .single → value.count '\'' < taken.count '\'') := by
  induction reads with
  | ends atEnd => exact ⟨[], rfl, ⟨by simp, by simp⟩, by simp⟩
  | @literal q c cs value following stands _ ih =>
      obtain ⟨taken, rfl, consumes, inside⟩ := ih
      cases q with
      | single =>
          -- Double quotes cost nothing here, but then the single quotes that close are taken besides.
          have less := inside rfl
          have other : c ≠ '\'' := by simpa [isLiteral] using stands
          refine ⟨c :: taken, rfl, ⟨?_, ?_⟩, ?_⟩
          · simpa [other] using Nat.le_of_lt less
          · intro same
            simp only [List.count_cons_of_ne other] at same
            omega
          · simpa [other] using less
      | double =>
          have other : c ≠ '"' := by
            simp only [isLiteral, Bool.and_eq_true, decide_eq_true_eq] at stands
            exact stands.1.1
          exact ⟨c :: taken, rfl, consumes.more [c] [c] (Nat.le_refl _) (by simp [other]), by simp⟩
      | plain =>
          have other : c ≠ '"' := by
            simp only [isLiteral, Bool.and_eq_true, decide_eq_true_eq] at stands
            exact stands.1.1.1.1.1
          exact ⟨c :: taken, rfl, consumes.more [c] [c] (Nat.le_refl _) (by simp [other]), by simp⟩
  | openDouble _ ih =>
      obtain ⟨taken, rfl, consumes, -⟩ := ih
      exact ⟨'"' :: taken, rfl, consumes.more ['"'] [] (by simp) (by simp), by simp⟩
  | closeDouble _ ih =>
      obtain ⟨taken, rfl, consumes, -⟩ := ih
      exact ⟨'"' :: taken, rfl, consumes.more ['"'] [] (by simp) (by simp), by simp⟩
  | openSingle _ ih =>
      obtain ⟨taken, rfl, consumes, -⟩ := ih
      exact ⟨'\'' :: taken, rfl, consumes.more ['\''] [] (by simp) (by simp), by simp⟩
  | closeSingle _ ih =>
      obtain ⟨taken, rfl, consumes, -⟩ := ih
      have singles := consumes.singles
      refine ⟨'\'' :: taken, rfl, consumes.more ['\''] [] (by simp) (by simp), ?_⟩
      intro _
      rw [List.count_cons_self]
      omega
  | @escaped c _ _ _ _ _ ih =>
      obtain ⟨taken, rfl, consumes, -⟩ := ih
      exact ⟨'\\' :: c :: taken, rfl, consumes.more ['\\', c] [c] (by grind) (by grind), by simp⟩
  | @guarded c _ _ _ _ _ ih =>
      obtain ⟨taken, rfl, consumes, -⟩ := ih
      exact ⟨'\\' :: c :: taken, rfl, consumes.more ['\\', c] [c] (by grind) (by grind), by simp⟩
  | idle _ _ ih =>
      obtain ⟨taken, rfl, consumes, -⟩ := ih
      exact ⟨'\\' :: taken, rfl, consumes.more ['\\'] ['\\'] (Nat.le_refl _) (by simp), by simp⟩
  | joined outside _ ih =>
      obtain ⟨taken, rfl, consumes, -⟩ := ih
      exact ⟨'\\' :: '\n' :: taken, rfl, consumes.more ['\\', '\n'] [] (by simp) (by simp),
        fun single => absurd single outside⟩

theorem isLiteral_backslash (outside : q ≠ .single) : isLiteral q '\\' = false := by
  cases q with
  | single => exact absurd rfl outside
  | plain | double => rfl

/-- There is one way to read a word. -/
theorem ReadsWord.unique {value' following' : List Char} (reads : ReadsWord q text value following)
    (reads' : ReadsWord q text value' following') : value = value' ∧ following = following' := by
  induction reads generalizing value' following' with
  | @ends following atEnd =>
      cases reads' with
      | ends => exact ⟨rfl, rfl⟩
      | literal stands _ => simp [isLiteral, atEnd _ rfl] at stands
      | openDouble | openSingle | escaped | joined => exact absurd (atEnd _ rfl) (by decide)
  | literal stands _ ih =>
      cases reads' with
      | ends atEnd => simp [isLiteral, atEnd _ rfl] at stands
      | literal _ rest => simpa using ih rest
      | openDouble | closeDouble | openSingle | closeSingle | escaped | guarded | idle => cases stands
      | joined outside => simp [isLiteral_backslash outside] at stands
  | openDouble _ ih =>
      cases reads' with
      | ends atEnd => exact absurd (atEnd _ rfl) (by decide)
      | literal stands => cases stands
      | openDouble rest => exact ih rest
  | closeDouble _ ih =>
      cases reads' with
      | literal stands => cases stands
      | closeDouble rest => exact ih rest
  | openSingle _ ih =>
      cases reads' with
      | ends atEnd => exact absurd (atEnd _ rfl) (by decide)
      | literal stands => cases stands
      | openSingle rest => exact ih rest
  | closeSingle _ ih =>
      cases reads' with
      | literal stands => cases stands
      | closeSingle rest => exact ih rest
  | escaped sameLine _ ih =>
      cases reads' with
      | ends atEnd => exact absurd (atEnd _ rfl) (by decide)
      | literal stands => cases stands
      | escaped _ rest => simpa using ih rest
      | joined => exact absurd rfl sameLine
  | guarded guards _ ih =>
      cases reads' with
      | literal stands => cases stands
      | guarded _ rest => simpa using ih rest
      | idle idle => simp [guards] at idle
      | joined => cases guards
  | idle idle _ ih =>
      cases reads' with
      | literal stands => cases stands
      | guarded guards => simp [guards] at idle
      | idle _ rest => simpa using ih rest
      | joined => simp at idle
  | joined outside _ ih =>
      cases reads' with
      | ends atEnd => exact absurd (atEnd _ rfl) (by decide)
      | literal stands => simp [isLiteral_backslash outside] at stands
      | escaped sameLine => exact absurd rfl sameLine
      | guarded guards => cases guards
      | idle idle => simp at idle
      | joined _ rest => exact ih rest

end Reading

/-! ### Quoting -/

/-- A text with a backslash before each of its double quotes. -/
def guardQuotes (cs : List Char) : List Char := cs.flatMap fun c => if c = '"' then ['\\', '"'] else [c]

/-- Whether double quotes around a text keep all of it, once its own double quotes are guarded. -/
structure KeptInQuotes (cs : List Char) : Prop where
  noExpansion : ∀ c ∈ cs, startsExpansion c = false
  /-- Behind each backslash stands a character that it takes no meaning from, on the same line. -/
  idle : ∀ front back, cs = front ++ '\\' :: back → ∃ c ∈ back.head?, isGuarded c = false ∧ c ≠ '\n'

section Quoting

variable {c : Char} {cs text tail value following : List Char} {q : Quoting}

theorem guardQuotes_cons (c : Char) (cs : List Char) :
    guardQuotes (c :: cs) = (if c = '"' then ['\\', '"'] else [c]) ++ guardQuotes cs := by
  rw [guardQuotes, List.flatMap_cons]
  rfl

theorem count_guardQuotes (cs : List Char) : (guardQuotes cs).count '\'' = cs.count '\'' ∧
    (guardQuotes cs).count '\\' = cs.count '\\' + cs.count '"' := by
  induction cs with
  | nil => exact ⟨rfl, rfl⟩
  | cons c cs ih =>
      rw [guardQuotes_cons, List.count_append, List.count_append, ih.1, ih.2]
      split
      next quote =>
          subst quote
          simp
          omega
      next other => grind

theorem replaceAll_go_singleton (mark : Char) (new cs : List Char) (fuel : Nat) (enough : cs.length ≤ fuel) :
    replaceAll.go [mark] new fuel cs = cs.flatMap fun c => if c = mark then new else [c] := by
  induction cs generalizing fuel with
  | nil => cases fuel <;> simp [replaceAll.go, cut?]
  | cons c cs ih =>
      obtain ⟨fuel, rfl⟩ : ∃ n, fuel = n + 1 := ⟨fuel - 1, by simp at enough; omega⟩
      rw [List.length_cons] at enough
      rw [List.flatMap_cons, replaceAll.go, cut?, stripStem?]
      by_cases same : c = mark
      · rw [if_pos same.symm, if_pos same, ← ih fuel (by omega)]
        simp [stripStem?]
      · have further := ih (fuel + 1) (by omega)
        rw [replaceAll.go] at further
        rw [if_neg (Ne.symm same), if_neg same, ← further]
        cases cut? [mark] cs <;> simp

/-- A quoted path is the path between double quotes, with its own double quotes guarded. -/
theorem toList_quote (path : String) : (quote path).toList = '"' :: (guardQuotes path.toList ++ ['"']) := by
  have replaced := replaceAll_go_singleton '"' ['\\', '"'] path.toList path.toList.length (Nat.le_refl _)
  simp only [quote, Text.replaced, replaceAll, String.toList_append, String.toList_ofList]
  exact congrArg (fun body => '"' :: (body ++ ['"'])) replaced

theorem keptInQuotes_cons : KeptInQuotes (c :: cs) ↔ startsExpansion c = false ∧
    (c = '\\' → ∃ next ∈ cs.head?, isGuarded next = false ∧ next ≠ '\n') ∧ KeptInQuotes cs := by
  constructor
  · intro kept
    refine ⟨kept.noExpansion c List.mem_cons_self, ?_, ?_, ?_⟩
    · intro backslash
      exact kept.idle [] cs (by rw [backslash, List.nil_append])
    · intro d among
      exact kept.noExpansion d (List.mem_cons_of_mem c among)
    · intro front back split
      exact kept.idle (c :: front) back (by rw [split, List.cons_append])
  · rintro ⟨expands, atHead, kept⟩
    constructor
    · intro d among
      rcases List.mem_cons.1 among with rfl | among
      · exact expands
      · exact kept.noExpansion d among
    · intro front back split
      cases front with
      | nil =>
          obtain ⟨rfl, rfl⟩ := List.cons.inj split
          exact atHead rfl
      | cons d front => exact kept.idle front back (List.cons.inj split).2

/-- What is kept in quotes is read back, and the word goes on behind them. -/
theorem readsWord_guardQuotes (kept : KeptInQuotes cs) (rest : ReadsWord .plain tail value following) :
    ReadsWord .double (guardQuotes cs ++ '"' :: tail) (cs ++ value) following := by
  induction cs with
  | nil => exact .closeDouble rest
  | cons c cs ih =>
      obtain ⟨expands, atHead, kept⟩ := keptInQuotes_cons.1 kept
      have further := ih kept
      rw [guardQuotes_cons]
      by_cases quote : c = '"'
      · subst quote
        exact .guarded rfl further
      · rw [if_neg quote]
        by_cases backslash : c = '\\'
        · subst backslash
          refine .idle ?_ further
          obtain ⟨next, atNext, idle, sameLine⟩ := atHead rfl
          obtain ⟨cs, rfl⟩ : ∃ back, cs = next :: back := by
            cases cs with
            | nil => cases atNext
            | cons d back =>
                cases atNext
                exact ⟨back, rfl⟩
          have other : next ≠ '"' := by
            rintro rfl
            cases idle
          intro d atD
          rw [guardQuotes_cons, if_neg other] at atD
          cases atD
          exact ⟨idle, sameLine⟩
        · refine .literal ?_ further
          simp [isLiteral, quote, backslash, expands]

/-- Where a reading has taken a backslash of a guarded text, its value is not a text that holds all of the original. -/
theorem no_backslash_of_readsWord (front extra : List Char)
    (split : guardQuotes cs ++ '"' :: following = front ++ text) (reads : ReadsWord q text (extra ++ cs) following) :
    front.count '\\' = 0 ∧ extra.count '\\' = 0 := by
  obtain ⟨taken, rfl, consumes, -⟩ := consumes_of_readsWord reads
  have parts : guardQuotes cs ++ ['"'] = front ++ taken := by
    have whole : (guardQuotes cs ++ ['"']) ++ following = (front ++ taken) ++ following := by simpa using split
    exact List.append_cancel_right whole
  obtain ⟨singles, backslashes⟩ := count_guardQuotes cs
  have allSingles := congrArg (List.count '\'') parts
  have allBackslashes := congrArg (List.count '\\') parts
  have keptSingles := consumes.singles
  have keptBackslashes := consumes.backslashes
  simp only [List.count_append, singles, backslashes] at allSingles allBackslashes keptSingles keptBackslashes
  simp at allSingles allBackslashes
  have unquoted : (extra.count '\'' : Nat) = 0 := by omega
  have cost := keptBackslashes (by omega)
  omega

/-- What is read back from between quotes is kept in them. -/
theorem keptInQuotes_of_readsWord (reads : ReadsWord .double (guardQuotes cs ++ '"' :: following) cs following) :
    KeptInQuotes cs := by
  induction cs with
  | nil => exact ⟨by simp, by simp⟩
  | cons c cs ih =>
      rw [guardQuotes_cons] at reads
      rw [keptInQuotes_cons]
      by_cases quote : c = '"'
      · subst quote
        cases reads with
        | guarded _ rest => exact ⟨rfl, by simp, ih rest⟩
      · rw [if_neg quote, List.append_assoc, List.singleton_append] at reads
        by_cases backslash : c = '\\'
        · subst backslash
          generalize same : guardQuotes cs ++ '"' :: following = text at reads
          cases reads with
          | literal stands _ => cases stands
          | @guarded d _ _ _ _ rest =>
              -- The value's backslash is the one that the first backslash guards, so one is lost.
              have lost := no_backslash_of_readsWord ['\\'] [] same rest
              simp at lost
          | joined _ rest =>
              have lost := no_backslash_of_readsWord ['\n'] ['\\'] same rest
              simp at lost
          | idle idle rest =>
              subst same
              refine ⟨rfl, fun _ => ?_, ih rest⟩
              cases cs with
              | nil => exact absurd (idle '"' rfl).1 (by decide)
              | cons d back =>
                  rw [guardQuotes_cons] at idle
                  split at idle
                  next => exact absurd (idle '\\' rfl).1 (by decide)
                  next => exact ⟨d, rfl, idle d rfl⟩
        · generalize guardQuotes cs ++ '"' :: following = text at reads ih
          cases reads with
          | literal stands rest =>
              refine ⟨?_, fun same => absurd same backslash, ih rest⟩
              simpa [isLiteral, quote, backslash] using stands
          | closeDouble => exact absurd rfl quote
          | guarded | idle | joined => exact absurd rfl backslash

/-- A quoted path in front of the end of a word is read as the path exactly if quotes keep the path. -/
theorem readsWord_quote_iff {path : String} (atEnd : ∀ c ∈ following.head?, endsWord c = true) :
    ReadsWord .plain ((quote path).toList ++ following) path.toList following ↔ KeptInQuotes path.toList := by
  rw [toList_quote, List.cons_append, List.append_assoc, List.singleton_append]
  generalize path.toList = cs
  constructor
  · intro reads
    generalize same : guardQuotes cs ++ '"' :: following = text at reads
    cases reads with
    | ends atEnd => exact absurd (atEnd _ rfl) (by decide)
    | literal stands _ => cases stands
    | openDouble rest =>
        subst same
        exact keptInQuotes_of_readsWord rest
  · intro kept
    have reads := readsWord_guardQuotes kept (.ends atEnd)
    rw [List.append_nil] at reads
    exact .openDouble reads

end Quoting

/-! ### Paths in commands -/

/-- The linter's arguments end with the quoted path of the document, a word of its own. -/
theorem lintArguments_eq_append (settings : LintSettings) (config : ConfigChoice) (path : String) :
    ∃ before, lintArguments settings config path = before ++ " " ++ quote path := by
  rw [lintArguments]
  generalize (if trimmed settings.arguments = "" then [] else [trimmed settings.arguments]) ++ _ = words
  refine ⟨join " " (words ++ [reportFlags]), ?_⟩
  have split : words ++ [reportFlags, quote path] = (words ++ [reportFlags]) ++ [quote path] := by simp
  rw [← String.toList_inj, split, join, List.map_append, joinWith_append (by simp) (by simp)]
  simp [join, joinWith]

/-- A quoted path at the end of a command, or in front of a blank, is read as one word in which nothing is expanded
    and whose value is the path, exactly if the path has no dollar sign and no backward quote, and each of its
    backslashes stands in front of a character that it takes no meaning from. So the linter is given such a path of a
    document as its last word, and the syntax check, where a blank follows, as its first. -/
theorem quoted_path_is_one_word_iff (path : String) (rest : List Char)
    (atEnd : ∀ c ∈ rest.head?, endsWord c = true) :
    (KeptInQuotes path.toList ↔ ∀ value following,
      ReadsWord .plain ((quote path).toList ++ rest) value following ↔ value = path.toList ∧ following = rest) ∧
    ∀ settings config, ∃ before, lintArguments settings config path = before ++ " " ++ quote path := by
  refine ⟨⟨?_, ?_⟩, fun settings config => lintArguments_eq_append settings config path⟩
  · intro kept value following
    have reads := (readsWord_quote_iff atEnd).2 kept
    constructor
    · intro reads'
      exact reads'.unique reads
    · rintro ⟨rfl, rfl⟩
      exact reads
  · intro word
    exact (readsWord_quote_iff atEnd).1 ((word path.toList rest).2 ⟨rfl, rfl⟩)

/-- A path with blanks and quotes, in the arguments of the syntax check. -/
theorem blanks_and_quotes_are_kept : KeptInQuotes "/srv/my \"site\".yml".toList ∧
    ReadsWord .plain ((quote "/srv/my \"site\".yml").toList ++ " --syntax-check".toList)
      "/srv/my \"site\".yml".toList " --syntax-check".toList := by
  have kept : KeptInQuotes "/srv/my \"site\".yml".toList := by
    constructor
    · have plain : "/srv/my \"site\".yml".toList.all (fun c => !startsExpansion c) = true := by decide
      simpa using plain
    · intro front back split
      have among : '\\' ∈ "/srv/my \"site\".yml".toList := by
        rw [split]
        simp
      exact absurd among (by decide)
  have atEnd : ∀ c ∈ " --syntax-check".toList.head?, endsWord c = true := by
    intro c first
    obtain rfl : ' ' = c := by simpa using first
    rfl
  have word := quoted_path_is_one_word_iff "/srv/my \"site\".yml" " --syntax-check".toList atEnd
  exact ⟨kept, (word.1.1 kept _ _).2 ⟨rfl, rfl⟩⟩

/-- A dollar sign in a path is left for the shell to expand. -/
theorem dollar_in_path_is_expanded : '\x00' ∉ "/srv/$HOME/site.yml".toList ∧ ¬ ReadsWord .plain
    (quote "/srv/$HOME/site.yml").toList "/srv/$HOME/site.yml".toList [] := by
  refine ⟨by decide, fun reads => ?_⟩
  have atEnd : ∀ c ∈ ([] : List Char).head?, endsWord c = true := by simp
  have kept := (readsWord_quote_iff atEnd).1 (by rwa [List.append_nil])
  exact absurd (kept.noExpansion '$' (by decide)) (by decide)

end PlaybookServer.Tool

/-
Module: PlaybookServer.Proofs.Lint.Report
Purpose: What a report of the linter becomes. Each file has the diagnostics of the findings about it, one for each and
  in the order of the report; a finding without a check name, a path or a starting position has none and changes nothing
  for the others. A longer warn list turns errors into warnings and changes nothing else.
Main exports: Finding.About, Finding.Shows, Softened, Finding.Shows.start_eq, get?_collect, forall₂_shows,
  aligned_collect, report_shows_each_finding_once
-/
import Mathlib.Data.List.Forall2
import PlaybookServer.Proofs.Files.Path
import PlaybookServer.Proofs.Json.TextList
import PlaybookServer.Proofs.Workspace.OwnFindings

namespace PlaybookServer

/-! ### Diagnostics that are filed one by one -/

namespace ByFile

/-- Two maps have the same files, and what they hold of each is related one by one. -/
abbrev Aligned (rel : Diagnostic → Diagnostic → Prop) (m m' : ByFile) : Prop :=
  List.Forall₂ (fun e e' => e.1 = e'.1 ∧ List.Forall₂ rel e.2 e'.2) m m'

theorem Aligned.add {rel : Diagnostic → Diagnostic → Prop} {m m' : ByFile} (aligned : Aligned rel m m') (u : Url)
    {ds ds' : List Diagnostic} (more : List.Forall₂ rel ds ds') : Aligned rel (m.add u ds) (m'.add u ds') := by
  induction aligned with
  | nil => exact .cons ⟨rfl, more⟩ .nil
  | @cons e e' rest rest' here others ih =>
      obtain ⟨v, held⟩ := e
      obtain ⟨v', held'⟩ := e'
      obtain ⟨rfl, same⟩ : v = v' ∧ List.Forall₂ rel held held' := here
      rw [ByFile.add, ByFile.add, alter, alter]
      split
      next => exact .cons ⟨rfl, List.rel_append same more⟩ others
      next =>
          split
          next => exact .cons ⟨rfl, more⟩ (.cons ⟨rfl, same⟩ others)
          next => exact .cons ⟨rfl, same⟩ ih

/-- What is filed of a file is what it had, and then what is filed under its address, in that order. -/
theorem get?_foldl_add (filed : List (Url × Diagnostic)) {m : ByFile} (ordered : m.Ordered) (v : Url) :
    ((filed.foldl (fun (m : ByFile) (e : Url × Diagnostic) => m.add e.1 [e.2]) m).get? v).getD [] =
      (m.get? v).getD [] ++ filed.filterMap fun e => if e.1 = v then some e.2 else none := by
  induction filed generalizing m with
  | nil => simp
  | cons e filed ih =>
      obtain ⟨u, d⟩ := e
      rw [List.foldl_cons, ih (ordered.add u [d]), ordered.get?_add u v]
      by_cases same : u = v
      · simp [same]
      · simp [same, Ne.symm same]

theorem mem_files_foldl_add (filed : List (Url × Diagnostic)) (m : ByFile) (v : Url) :
    v ∈ (filed.foldl (fun (m : ByFile) (e : Url × Diagnostic) => m.add e.1 [e.2]) m).files ↔
      v ∈ m.files ∨ ∃ d, (v, d) ∈ filed := by
  induction filed generalizing m with
  | nil => simp
  | cons e filed ih =>
      obtain ⟨u, d⟩ := e
      rw [List.foldl_cons, ih, add, mem_files_alter]
      simp only [List.mem_cons, Prod.mk.injEq, exists_or, exists_and_left, exists_eq, and_true]
      grind

end ByFile

namespace Lint

open Text Files Json

/-! ### What a finding stands for -/

/-- A finding that counts, about the file with an address. -/
def Finding.About (f : Finding) (dir : String) (file : Url) : Prop :=
  ∃ path, f.At path ∧ pathToUri? (joinPath dir path) = some file

instance (f : Finding) (dir : String) (file : Url) : Decidable (f.About dir file) :=
  decidable_of_iff (∃ path ∈ f.location.bind Location.path, f.At path ∧ pathToUri? (joinPath dir path) = some file)
    ⟨fun ⟨path, _, counts⟩ => ⟨path, counts⟩, fun ⟨path, counts⟩ => ⟨path, counts.1.placed, counts⟩⟩

/-- A finding that counts: it has a check name, a path and a starting position. -/
def Finding.Counts (f : Finding) : Prop := ∃ path, f.At path

instance (f : Finding) : Decidable f.Counts :=
  decidable_of_iff (∃ path ∈ f.location.bind Location.path, f.At path)
    ⟨fun ⟨path, _, counts⟩ => ⟨path, counts⟩, fun ⟨path, counts⟩ => ⟨path, counts.placed, counts⟩⟩

/-- Whether a warn list names the rule of a finding or one of its categories. -/
def Finding.Warned (f : Finding) (warnList : List String) (rule : String) : Prop :=
  rule ∈ warnList ∨ ∃ category ∈ warnList, Json.string category ∈ f.categories

/-- What is said of a finding with a check name. -/
def Finding.text (f : Finding) (check : String) : String :=
  match f.description with
  | some description => if description = "" then check else check ++ "\nDescription: " ++ description
  | none => check

/-- A diagnostic says of a finding what it should under a warn list, and nothing else. -/
structure Finding.Shows (f : Finding) (warnList : List String) (check rule : String) (d : Diagnostic) : Prop where
  named : f.checkName = some check
  ruled : NamesRule check rule
  /-- It starts where the finding does, counted from zero; zero stays. What is too large for a line is the last line,
      and for a column the first column. -/
  start : ∃ line column, f.Starts line column ∧
    d.range.start.line = (if line - 1 < 2 ^ 32 then line - 1 else 2 ^ 32 - 1) ∧
    d.range.start.col = if column - 1 < 2 ^ 32 then column - 1 else 0
  /-- It goes to the end of the line. -/
  stop : d.range.stop = ⟨d.range.start.line, 2 ^ 32 - 1⟩
  upright : d.range.start.col ≤ d.range.stop.col
  warning_iff : d.severity = .warning ↔ f.Warned warnList rule
  error_iff : d.severity = .error ↔ ¬ f.Warned warnList rule
  message : d.message = f.text check
  code : d.code = some rule
  source : d.source = lintSource
  bare : d.codeUrl = none ∧ d.related = []

/-- The same diagnostic, or the same but for a warning where there was an error. -/
def Softened (d d' : Diagnostic) : Prop := d' = d ∨ d.severity = .error ∧ d' = { d with severity := .warning }

section Shows

variable {f : Finding} {warnList more : List String} {check check' rule rule' dir : String} {file : Url}
  {d d' : Diagnostic}

theorem Finding.warned_iff (f : Finding) (warnList : List String) (rule : String) :
    f.Warned warnList rule ↔ isDowngraded warnList rule f.categories = true := by
  have isText (j : Json) (text : String) : j.asString? = some text ↔ .string text = j := by
    cases j <;> simp [asString?, eq_comm]
  simp only [Warned, isDowngraded, Bool.or_eq_true, List.any_eq_true, List.mem_filterMap, List.contains_eq_mem,
    decide_eq_true_eq, isText]
  constructor
  · rintro (byRule | ⟨category, listed, among⟩)
    · exact .inl byRule
    · exact .inr ⟨category, ⟨_, among, rfl⟩, listed⟩
  · rintro (byRule | ⟨category, ⟨_, among, rfl⟩, listed⟩)
    · exact .inl byRule
    · exact .inr ⟨category, listed, among⟩

/-- The range of a start keeps zero, and what is too large for it. -/
theorem beginRange_eq (line column : Nat) :
    (beginRange line column).start.line = (if line - 1 < 2 ^ 32 then line - 1 else 2 ^ 32 - 1) ∧
    (beginRange line column).start.col = (if column - 1 < 2 ^ 32 then column - 1 else 0) ∧
    (beginRange line column).stop = ⟨(beginRange line column).start.line, 2 ^ 32 - 1⟩ ∧
    (beginRange line column).start.col ≤ (beginRange line column).stop.col := by
  have largest : maxCoordinate = 2 ^ 32 - 1 := rfl
  refine ⟨?_, ?_, rfl, ?_⟩
  · simp only [beginRange, Range.toLineEnd, largest]
    split <;> omega
  · simp only [beginRange, Range.toLineEnd, largest]
    split <;> split <;> omega
  · simp only [beginRange, Range.toLineEnd, largest]
    split <;> omega

/-- What is filed of a finding is filed because it counts, under the address of its file, and says what it should. -/
theorem shows_of_diagnosticOf? (filed : diagnosticOf? warnList dir f = some (file, d)) :
    f.About dir file ∧ ∃ check rule, f.Shows warnList check rule d := by
  simp only [diagnosticOf?, Option.bind_eq_bind, Option.bind_eq_some_iff] at filed
  obtain ⟨check, named, location, placed, path, atPath, start, starts, ⟨line, column⟩, position, address, isFile,
    same⟩ :=
    filed
  cases same
  have started : f.Starts line column := by simp [Finding.starts_iff, placed, starts, position]
  obtain ⟨startLine, startColumn, stop, upright⟩ := beginRange_eq line column
  refine ⟨⟨path, ⟨by simp [named], by simp [placed, atPath], line, column, started⟩, isFile⟩, check, ruleName check, ?_⟩
  refine ⟨named, namesRule_iff.2 rfl, ⟨line, column, started, startLine, startColumn⟩, stop, upright, ?_, ?_, rfl, rfl,
    rfl, rfl, rfl⟩
  · rw [Finding.warned_iff]
    dsimp only
    split <;> simp_all
  · rw [Finding.warned_iff]
    dsimp only
    split <;> simp_all

theorem Finding.Warned.mono (warned : f.Warned warnList rule) (longer : warnList ⊆ more) : f.Warned more rule := by
  rcases warned with byRule | ⟨category, listed, among⟩
  · exact .inl (longer byRule)
  · exact .inr ⟨category, longer listed, among⟩

/-- A place that is counted from one, counted from zero. Zero stays; what is too large for a line is the last line, and
    for a column the first column. -/
def zeroBased (line column : Nat) : Point :=
  ⟨if line - 1 < 2 ^ 32 then line - 1 else 2 ^ 32 - 1, if column - 1 < 2 ^ 32 then column - 1 else 0⟩

/-- Where a finding starts determines where the diagnostic does. -/
theorem Finding.Shows.start_eq (shown : f.Shows warnList check rule d) {line column : Nat}
    (starts : f.Starts line column) : d.range.start = zeroBased line column := by
  obtain ⟨line', column', starts', startLine, startColumn⟩ := shown.start
  obtain ⟨rfl, rfl⟩ := starts'.unique starts
  calc d.range.start = ⟨d.range.start.line, d.range.start.col⟩ := rfl
    _ = zeroBased line' column' := by rw [startLine, startColumn, zeroBased]

/-- So a list of diagnostics that show findings starts where the findings do, one by one. -/
theorem starts_of_shows {findings : List Finding} {ds : List Diagnostic} {places : List (Nat × Nat)}
    (shown : List.Forall₂ (fun f d => ∃ check rule, f.Shows warnList check rule d) findings ds)
    (starts : List.Forall₂ (fun (f : Finding) place => f.Starts place.1 place.2) findings places) :
    ds.map (·.range.start) = places.map fun place => zeroBased place.1 place.2 := by
  induction shown generalizing places with
  | nil =>
      cases starts
      rfl
  | cons one rest ih =>
      obtain ⟨check, rule, one⟩ := one
      cases starts with
      | cons start others => rw [List.map_cons, List.map_cons, one.start_eq start, ih others]

/-- What is said of a finding under two warn lists differs at most in how severe it is. -/
theorem Finding.Shows.eq_but_severity (shown : f.Shows warnList check rule d) (shown' : f.Shows more check rule d') :
    d' = { d with severity := d'.severity } := by
  obtain ⟨line, column, starts, -⟩ := shown.start
  have startSame : d'.range.start = d.range.start := (shown'.start_eq starts).trans (shown.start_eq starts).symm
  have rangeSame : d'.range = d.range := by
    calc d'.range = ⟨d'.range.start, d'.range.stop⟩ := rfl
      _ = ⟨d.range.start, d.range.stop⟩ := by rw [shown'.stop, shown.stop, startSame]
  calc d' = ⟨d'.range, d'.severity, d'.message, d'.source, d'.code, d'.codeUrl, d'.related⟩ := rfl
    _ = { d with severity := d'.severity } := by
      rw [rangeSame, shown'.message, shown'.source, shown'.code, shown'.bare.1, shown'.bare.2, ← shown.message,
        ← shown.source, ← shown.code, ← shown.bare.1, ← shown.bare.2]

/-- Under a longer warn list, the same is said of a finding but for a warning where there was an error. -/
theorem Finding.Shows.softened (shown : f.Shows warnList check rule d) (shown' : f.Shows more check' rule' d')
    (longer : warnList ⊆ more) : Softened d d' := by
  obtain rfl : check = check' := Option.some.inj (shown.named.symm.trans shown'.named)
  obtain rfl : rule = rule' := (namesRule_iff.1 shown.ruled).symm.trans (namesRule_iff.1 shown'.ruled)
  have same := shown.eq_but_severity shown'
  by_cases warned : f.Warned warnList rule
  · have before := shown.warning_iff.2 warned
    have after := shown'.warning_iff.2 (warned.mono longer)
    rw [after, ← before] at same
    exact .inl same
  · have before := shown.error_iff.2 warned
    by_cases warned' : f.Warned more rule
    · rw [shown'.warning_iff.2 warned'] at same
      exact .inr ⟨before, same⟩
    · rw [shown'.error_iff.2 warned', ← before] at same
      exact .inl same

end Shows

/-! ### Reports -/

section Reports

variable {warnList more : List String} {dir : String} {findings : List Finding} {file : Url}

/-- A finding about a file is filed under it. -/
theorem Finding.About.filed {f : Finding} (about : f.About dir file) (warnList : List String) :
    ∃ d, diagnosticOf? warnList dir f = some (file, d) := by
  obtain ⟨path, counts, isFile⟩ := about
  exact counts.filed warnList isFile

/-- What is filed of a finding under one address. -/
def diagnosticIn? (warnList : List String) (dir : String) (file : Url) (f : Finding) : Option Diagnostic :=
  (diagnosticOf? warnList dir f).bind fun e => if e.1 = file then some e.2 else none

theorem diagnosticIn?_eq_some_iff {f : Finding} {d : Diagnostic} :
    diagnosticIn? warnList dir file f = some d ↔ diagnosticOf? warnList dir f = some (file, d) := by
  simp only [diagnosticIn?, Option.bind_eq_some_iff, Option.ite_none_right_eq_some, Option.some.injEq]
  constructor
  · rintro ⟨⟨other, d'⟩, filed, rfl, rfl⟩
    exact filed
  · intro filed
    exact ⟨_, filed, rfl, rfl⟩

theorem get?_collect (warnList : List String) (dir : String) (findings : List Finding) (file : Url) :
    ((collect warnList dir findings).get? file).getD [] = findings.filterMap (diagnosticIn? warnList dir file) := by
  rw [collect, ByFile.get?_foldl_add _ ByFile.Ordered.nil, List.filterMap_filterMap]
  rfl

/-- A file has one diagnostic for each finding about it, in the order of the report. -/
theorem forall₂_shows (warnList : List String) (dir : String) (findings : List Finding) (file : Url) :
    List.Forall₂ (fun f d => ∃ check rule, f.Shows warnList check rule d) (findings.filter (·.About dir file))
      (((collect warnList dir findings).get? file).getD []) := by
  rw [get?_collect]
  induction findings with
  | nil => exact .nil
  | cons f findings ih =>
      by_cases about : f.About dir file
      · obtain ⟨d, filed⟩ := about.filed warnList
        rw [List.filter_cons_of_pos (by simpa using about),
          List.filterMap_cons_some (diagnosticIn?_eq_some_iff.2 filed)]
        exact .cons (shows_of_diagnosticOf? filed).2 ih
      · have here : diagnosticIn? warnList dir file f = none := by
          rw [Option.eq_none_iff_forall_ne_some]
          intro d filed
          exact about (shows_of_diagnosticOf? (diagnosticIn?_eq_some_iff.1 filed)).1
        rw [List.filter_cons_of_neg (by simpa using about), List.filterMap_cons_none here]
        exact ih

/-- The files of a report are those that some finding is about. -/
theorem mem_files_collect (warnList : List String) (dir : String) (findings : List Finding) (file : Url) :
    file ∈ (collect warnList dir findings).files ↔ ∃ f ∈ findings, f.About dir file := by
  rw [collect, ByFile.mem_files_foldl_add]
  simp only [List.mem_filterMap]
  constructor
  · rintro (impossible | ⟨d, f, among, filed⟩)
    · cases impossible
    · exact ⟨f, among, (shows_of_diagnosticOf? filed).1⟩
  · rintro ⟨f, among, about⟩
    obtain ⟨d, filed⟩ := about.filed warnList
    exact .inr ⟨d, f, among, filed⟩

/-- Findings that do not count can be left out. -/
theorem collect_filter_counts (warnList : List String) (dir : String) (findings : List Finding) :
    collect warnList dir (findings.filter (·.Counts)) = collect warnList dir findings := by
  have same : (findings.filter (·.Counts)).filterMap (diagnosticOf? warnList dir) =
      findings.filterMap (diagnosticOf? warnList dir) := by
    rw [List.filterMap_filter]
    refine List.filterMap_congr fun f _ => ?_
    split
    next => rfl
    next other =>
        symm
        rw [Option.eq_none_iff_forall_ne_some]
        rintro ⟨file, d⟩ filed
        obtain ⟨path, counts, -⟩ := (shows_of_diagnosticOf? filed).1
        exact other (decide_eq_true ⟨path, counts⟩)
  rw [collect, collect, same]

/-- Under a longer warn list a report has the same diagnostics of the same files, but for warnings where there were
    errors. -/
theorem aligned_collect (dir : String) (findings : List Finding) (longer : warnList ⊆ more) :
    ByFile.Aligned Softened (collect warnList dir findings) (collect more dir findings) := by
  suffices grows : ∀ m m' : ByFile, ByFile.Aligned Softened m m' → ByFile.Aligned Softened
      ((findings.filterMap (diagnosticOf? warnList dir)).foldl (fun (m : ByFile) e => m.add e.1 [e.2]) m)
      ((findings.filterMap (diagnosticOf? more dir)).foldl (fun (m : ByFile) e => m.add e.1 [e.2]) m') from
    grows [] [] .nil
  induction findings with
  | nil => exact fun m m' aligned => aligned
  | cons f findings ih =>
      intro m m' aligned
      cases filed : diagnosticOf? warnList dir f with
      | none =>
          cases filed' : diagnosticOf? more dir f with
          | none =>
              rw [List.filterMap_cons_none filed, List.filterMap_cons_none filed']
              exact ih m m' aligned
          | some e =>
              obtain ⟨d, impossible⟩ := (shows_of_diagnosticOf? filed').1.filed warnList
              rw [filed] at impossible
              cases impossible
      | some e =>
          obtain ⟨file, d⟩ := e
          obtain ⟨about, check, rule, shown⟩ := shows_of_diagnosticOf? filed
          obtain ⟨d', filed'⟩ := about.filed more
          obtain ⟨-, check', rule', shown'⟩ := shows_of_diagnosticOf? filed'
          rw [List.filterMap_cons_some filed, List.filterMap_cons_some filed']
          exact ih _ _ (aligned.add file (.cons (shown.softened shown' longer) .nil))

/-! ### Texts of reports -/

/-- A list starts, behind blanks, with a bracket. -/
theorem mem_of_readListOf {α : Type} {read : Reads α} {depth : Nat} {k : Cursor} {found : List α × Cursor}
    (reads : readListOf read depth k = .ok found) : '[' ∈ k.rest := by
  simp only [readListOf, beforeValue, bind, Except.bind] at reads
  by_cases ended : k.skipBlanks.rest.isEmpty = true
  · rw [if_pos ended] at reads
    cases reads
  · rw [if_neg ended] at reads
    dsimp only at reads
    have behind : k.skipBlanks.rest.Sublist k.rest := k.rest_skipBlanks ▸ List.dropWhile_sublist _
    apply behind.mem
    split at reads
    next rest opened => simp [opened]
    next => cases reads

/-- A text that is a list has more than blanks. -/
theorem not_isBlankLine_of_list {α : Type} {read : Reads α} {text : String} {xs : List α}
    (reads : ofTextWith (readListOf read) text = .ok xs) : isBlankLine text.toList = false := by
  have opened : '[' ∈ text.toList := by
    simp only [ofTextWith, bind, Except.bind] at reads
    split at reads
    next => cases reads
    next found list => exact mem_of_readListOf list
  rw [isBlankLine, List.all_eq_false]
  exact ⟨'[', opened, by decide⟩

/-- The diagnostics of a report that is a list of findings. -/
theorem parseReport_eq_collect {stdout : String} (reads : ofTextWith (readListOf readFinding) stdout = .ok findings)
    (warnList : List String) (dir : String) :
    parseReport stdout warnList dir = .ok (collect warnList dir findings) := by
  rw [parseReport, not_isBlankLine_of_list reads, reads]
  rfl

/-- In an absolute directory every path is that of a file. -/
theorem exists_file_of_path (absolute : isAbsolute dir = true) (path : String) :
    ∃ file, pathToUri? (joinPath dir path) = some file := by
  have absoluteWhole : isAbsolute (joinPath dir path) = true := by
    have nonempty : dir ≠ "" := by
      rintro rfl
      cases absolute
    rw [joinPath]
    split
    next absolutePath => exact absolutePath
    next =>
        split
        next => rw [isAbsolute_append nonempty, absolute]
        next => rw [String.append_assoc, isAbsolute_append nonempty, absolute]
  rw [pathToUri?, Url.ofFilePath?, if_pos absoluteWhole]
  exact ⟨_, rfl⟩

/-- A report that is a list of findings, read in an absolute directory, gives each file the diagnostics of the findings
    about it, one for each and in the order of the report, and gives no other file any. Each finding that counts is
    about the file of its path, and those that do not count can be left out. Under a longer warn list all this stays as
    it is but for errors that become warnings. -/
theorem report_shows_each_finding_once {stdout : String} (warnList : List String) (absolute : isAbsolute dir = true)
    (reads : ofTextWith (readListOf readFinding) stdout = .ok findings) :
    ∃ found, parseReport stdout warnList dir = .ok found ∧ found.files.Nodup ∧
      (∀ file, List.Forall₂ (fun f d => ∃ check rule, f.Shows warnList check rule d)
        (findings.filter (·.About dir file)) ((found.get? file).getD [])) ∧
      (∀ file, file ∈ found.files ↔ ∃ f ∈ findings, f.About dir file) ∧
      (∀ f : Finding, f.Counts → ∃ file, f.About dir file) ∧
      (∀ (f : Finding) file, f.About dir file →
        ∃ path, f.At path ∧ samePath (uriToPath file) (joinPath dir path) = true) ∧
      collect warnList dir (findings.filter (·.Counts)) = found ∧
      ∀ more, warnList ⊆ more →
        ∃ found', parseReport stdout more dir = .ok found' ∧ ByFile.Aligned Softened found found' := by
  refine ⟨_, parseReport_eq_collect reads warnList dir, (foldl_add_ordered _ ByFile.Ordered.nil).nodup,
    forall₂_shows warnList dir findings, mem_files_collect warnList dir findings, ?_, ?_,
    collect_filter_counts warnList dir findings, ?_⟩
  · rintro f ⟨path, counts⟩
    obtain ⟨file, isFile⟩ := exists_file_of_path absolute path
    exact ⟨file, path, counts, isFile⟩
  · rintro f file ⟨path, counts, isFile⟩
    refine ⟨path, counts, ?_⟩
    rw [samePath, decide_eq_true_eq]
    exact components_uriToPath isFile
  · intro more longer
    exact ⟨_, parseReport_eq_collect reads more dir, aligned_collect dir findings longer⟩

/-- A report with a finding in line zero, one with a line and a column besides a line by itself, one in a line that is
    too large, and one whose place cannot be used. -/
def fileModeText : List Char := [
  "[\x7b\"check_name\":\"[file] x\",\"categories\":[\"idiom\"],",
    "\"location\":\x7b\"path\":\"a.yml\",\"lines\":\x7b\"begin\":0\x7d\x7d\x7d,",
  "\x7b\"check_name\":\"y\",\"location\":\x7b\"path\":\"a.yml\",\"lines\":\x7b\"begin\":9\x7d,",
    "\"positions\":\x7b\"begin\":\x7b\"line\":3,\"column\":5\x7d\x7d\x7d\x7d,",
  "\x7b\"check_name\":\"y\",\"location\":\x7b\"path\":\"a.yml\",",
    "\"positions\":\x7b\"begin\":\x7b\"line\":4294967298\x7d\x7d\x7d\x7d,",
  "\x7b\"check_name\":\"y\",\"location\":\x7b\"path\":\"a.yml\",\"lines\":\x7b\"begin\":9\x7d,",
    "\"positions\":\x7b\"begin\":\"3\"\x7d\x7d\x7d]"].flatMap String.toList

/-- The report as the linter prints it. -/
def fileModeReport : String := String.ofList fileModeText

/-- The findings of that report. -/
def fileModeFindings : List Finding :=
  [{ checkName := some "[file] x", categories := [.string "idiom"],
     location := some { path := some "a.yml", linesBegin := some (.nat 0) } },
   { checkName := some "y", location := some {
      path := some "a.yml", linesBegin := some (.nat 9),
      positionsBegin := some (.object [("line", .nat 3), ("column", .nat 5)]) } },
   { checkName := some "y", location := some {
      path := some "a.yml", positionsBegin := some (.object [("line", .nat 4294967298)]) } },
   { checkName := some "y", location := some {
      path := some "a.yml", linesBegin := some (.nat 9), positionsBegin := some (.string "3") } }]

/-- The file of its findings. -/
def modeSite : Url := { scheme := "file", authority := some "", path := "/work/a.yml" }

theorem reads_fileModeReport : ofTextWith (readListOf readFinding) fileModeReport = .ok fileModeFindings := by
  rw [ofTextWith, fileModeReport, String.toList_ofList]
  decide +kernel

/-- The first three findings are shown, where their places say; a warn list makes no difference to that. -/
theorem file_mode_shown_once : isAbsolute "/work" = true ∧
    ofTextWith (readListOf readFinding) fileModeReport = .ok fileModeFindings ∧ [] ⊆ ["idiom"] ∧
    ∃ found found', parseReport fileModeReport [] "/work" = .ok found ∧
      parseReport fileModeReport ["idiom"] "/work" = .ok found' ∧
      ((found.get? modeSite).getD []).map (·.range.start) = [⟨0, 0⟩, ⟨2, 4⟩, ⟨4294967295, 0⟩] ∧
      ByFile.Aligned Softened found found' := by
  obtain ⟨found, parsed, -, shown, -, -, -, -, longer⟩ :=
    report_shows_each_finding_once [] (show isAbsolute "/work" = true by decide) reads_fileModeReport
  obtain ⟨found', parsed', aligned⟩ := longer ["idiom"] (List.nil_subset _)
  refine ⟨by decide, reads_fileModeReport, List.nil_subset _, found, found', parsed, parsed', ?_, aligned⟩
  have about : fileModeFindings.map (fun f => decide (f.About "/work" modeSite)) = [true, true, true, false] := by
    decide +kernel
  have listed := shown modeSite
  simp only [fileModeFindings, List.map_cons, List.map_nil, List.cons.injEq, and_true] at about
  obtain ⟨first, second, third, fourth⟩ := about
  simp only [fileModeFindings, List.filter_cons, first, second, third, fourth, List.filter_nil, if_true,
    Bool.false_eq_true, if_false] at listed
  have starts := @starts_of_shows _ _ _ [(0, 1), (3, 5), (4294967298, 1)] listed
    (.cons ⟨_, rfl, .line 0⟩ (.cons ⟨_, rfl, .lineAndColumn rfl rfl⟩ (.cons ⟨_, rfl, .lineOnly rfl nofun⟩ .nil)))
  rw [starts]
  rfl

end Reports

end Lint

end PlaybookServer

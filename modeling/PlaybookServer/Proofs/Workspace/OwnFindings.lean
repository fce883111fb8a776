/-
Module: PlaybookServer.Proofs.Workspace.OwnFindings
Purpose: Where the findings of a report about an open document go. They are filed under the address made of the path
  that the report names, which is the address of the file that the document's own address names. If the client
  spells the document's address as the server does, they stand in the document's entry; if it spells it in any other
  way, none of them does, and the document's entry has its structure alone.
Main exports: Lint.findingsIn, Lint.Finding.At.filed, Lint.mem_collect,
  full_validation_files_findings_under_address_of_file
-/
import PlaybookServer.Proofs.Diagnostic.Overlap
import PlaybookServer.Proofs.Lint.Entry
import PlaybookServer.Proofs.Url.File
import PlaybookServer.Proofs.Workspace.Validation

namespace PlaybookServer

open Effect Files

/-! ### Findings and their entries -/

namespace Lint

open Text

/-- The findings of a report. An empty one has none, nor has one that cannot be read. -/
def findingsIn (stdout : String) : List Finding :=
  if isBlankLine stdout.toList then []
  else (Json.ofTextWith (Json.readListOf readFinding) stdout).toOption.getD []

/-- What a run with a report found are the diagnostics of the report's findings. -/
theorem reportFindings_of_hasReport (list : WarnList) (root : String) {o : CommandOutput}
    (h : hasReport o.status = true) : reportFindings list root (.ok o) = collect list root (findingsIn o.stdout) := by
  rw [reportFindings, if_pos h, parseReport, findingsIn]
  split
  next => rfl
  next => cases Json.ofTextWith (Json.readListOf readFinding) o.stdout <;> rfl

/-- A finding that counts is filed under the address of its path. -/
theorem Finding.At.filed {f : Finding} {path : String} (h : f.At path) (list : WarnList) {dir : String} {address : Url}
    (haddress : pathToUri? (joinPath dir path) = some address) :
    ∃ d, diagnosticOf? list dir f = some (address, d) := by
  obtain ⟨check, hcheck⟩ := Option.isSome_iff_exists.1 h.named
  obtain ⟨location, hlocation, hpath⟩ := Option.bind_eq_some_iff.1 h.placed
  obtain ⟨line, column, start, hstart, hbegins⟩ := h.started
  rw [hlocation, Option.bind_some] at hstart
  have hposition := begins_iff.1 hbegins
  simp only [diagnosticOf?, hcheck, hlocation, hpath, hstart, hposition, haddress, Option.bind_eq_bind,
    Option.bind_some]
  exact ⟨_, rfl⟩

/-- What is filed anywhere comes from the linter and stands under the address of some path. -/
theorem source_of_diagnosticOf? {list : WarnList} {dir : String} {f : Finding} {address : Url} {d : Diagnostic}
    (h : diagnosticOf? list dir f = some (address, d)) :
    d.source = lintSource ∧ ∃ path, pathToUri? path = some address := by
  simp only [diagnosticOf?, Option.bind_eq_bind, Option.bind_eq_some_iff] at h
  obtain ⟨check, -, location, -, path, -, start, -, ⟨line, column⟩, -, address', haddress, h⟩ := h
  cases h
  exact ⟨rfl, _, haddress⟩

theorem mem_get?_foldl_add (found : List (Url × Diagnostic)) {m : ByFile} (h : m.Ordered) (v : Url) (d : Diagnostic) :
    d ∈ ((found.foldl (fun (m : ByFile) (e : Url × Diagnostic) => m.add e.1 [e.2]) m).get? v).getD [] ↔
      d ∈ (m.get? v).getD [] ∨ (v, d) ∈ found := by
  induction found generalizing m with
  | nil => simp
  | cons e found ih =>
      obtain ⟨u, d'⟩ := e
      rw [List.foldl_cons, ih (h.add u [d']), h.get?_add u v]
      by_cases huv : v = u
      · simp [huv, or_assoc]
      · simp [huv]

/-- The diagnostics in the entry of a file are those of the findings that are filed under its address. -/
theorem mem_collect (list : WarnList) (dir : String) (findings : List Finding) (v : Url) (d : Diagnostic) :
    d ∈ ((collect list dir findings).get? v).getD [] ↔ ∃ f ∈ findings, diagnosticOf? list dir f = some (v, d) := by
  rw [collect, mem_get?_foldl_add _ ByFile.Ordered.nil, List.mem_filterMap]
  simp [ByFile.get?]

end Lint

/-! ### The document's own findings -/

namespace Workspace

open Tool Lint

theorem get?_answered {found : ByFile} (h : found.Ordered) (doc v : Url) (ds : List Diagnostic) :
    (((found.add doc []).add doc ds).get? v).getD [] = (found.get? v).getD [] ++ if v = doc then ds else [] := by
  rw [(h.add doc []).get?_add doc v, h.get?_add doc, h.get?_add doc]
  by_cases hv : v = doc
  · simp [hv]
  · simp [hv]

/-- A file has an address. -/
theorem exists_pathToUri?_of_filePath? {doc : Url} (h : doc.filePath?.isSome = true) :
    ∃ address, pathToUri? (uriToPath doc) = some address := by
  obtain ⟨path, hpath⟩ := Option.isSome_iff_exists.1 h
  have habsolute : isAbsolute (uriToPath doc) = true := by
    rw [uriToPath, hpath]
    exact Url.isAbsolute_of_filePath? hpath
  rw [pathToUri?, Url.ofFilePath?, if_pos habsolute]
  exact ⟨_, rfl⟩

/-- In an answer made of a report the findings about the document's file stand under the address of that file. The
    document's entry has them only if this is how the document's address is spelled, and else the structure alone. -/
theorem own_findings_of_report {doc address : Url} (haddress : pathToUri? (uriToPath doc) = some address)
    (list : WarnList) (dir : String) (findings : List Finding) (text : String) {result : ByFile}
    (hresult : result = ((collect list dir findings).add doc []).add doc (structuralDiagnostics doc text)) :
    (address ≠ doc → (result.get? doc).getD [] = structuralDiagnostics doc text) ∧
    ∀ f ∈ findings, ∀ path, f.At path → samePath (joinPath dir path) (uriToPath doc) = true →
      ∃ d, diagnosticOf? list dir f = some (address, d) ∧ d ∈ (result.get? address).getD [] ∧
        (d ∈ (result.get? doc).getD [] ↔ address = doc) := by
  have hordered : (collect list dir findings).Ordered := foldl_add_ordered _ ByFile.Ordered.nil
  -- what is filed under the document's own spelling was filed under the address of a file
  have hstructure (hne : address ≠ doc) : (result.get? doc).getD [] = structuralDiagnostics doc text := by
    have hnone : ((collect list dir findings).get? doc).getD [] = [] := by
      rw [List.eq_nil_iff_forall_not_mem]
      intro d hd
      obtain ⟨f, -, hf⟩ := (mem_collect list dir findings doc d).1 hd
      have hown := (pathToUri?_uriToPath_iff doc).2 (source_of_diagnosticOf? hf).2
      exact hne (Option.some.inj (haddress.symm.trans hown))
    rw [hresult, get?_answered hordered, hnone, if_pos rfl, List.nil_append]
  refine ⟨hstructure, fun f hf path hat hsame => ?_⟩
  have hpath : pathToUri? (joinPath dir path) = some address := by
    rw [← haddress]
    exact pathToUri?_congr (by simpa [samePath] using hsame)
  obtain ⟨d, hd⟩ := hat.filed list hpath
  have hmem : d ∈ (result.get? address).getD [] := by
    rw [hresult, get?_answered hordered]
    exact List.mem_append_left _ ((mem_collect list dir findings address d).2 ⟨f, hf, hd⟩)
  refine ⟨d, hd, hmem, fun hown => ?_, fun heq => heq ▸ hmem⟩
  by_contra hne
  rw [hstructure hne] at hown
  have hsource := (source_of_mem_structuralDiagnostics hown).symm.trans (source_of_diagnosticOf? hd).1
  exact absurd hsource (by decide)

/-- A full pass comes to its end. Of the folder it changes the container environment and what the linter keeps, and it
    answers with what the tools found and the structure. -/
theorem run_fullValidation {ω : Type} (answer : (q : Query) → ω → q.Answer × ω) {s : State} {n : Nat}
    (hn : n < s.contexts.length) (henabled : (s.context n).settings.validation.enabled = true)
    (hidle : (s.context n).environment.isBuilding = false) (doc : Url) (text : String) (w : ω) :
    ∃ (result : ByFile) (s' : State) (w' : ω) (said : List Exchange) (found : ByFile),
      (validate n doc text false).run (recording answer) s (w, []) = .finished result s' (w', said) ∧
      (∃ d l, s'.context n = { s.context n with environment := d, lint := l }) ∧
      ToolsFound (s'.context n).runnerNow (s.context n).lint.configs doc text said found ∧
      result = (found.add doc []).add doc (structuralDiagnostics doc text) := by
  obtain ⟨result, s', w', said, hrun, d, l, found, -, rfl, hfound, hresult⟩ :=
    (completes_fullValidation_parts hn henabled hidle doc text).run answer w []
  have hcontext := (partOf_context hn).get_put { s.context n with environment := d, lint := l }
  exact ⟨result, _, w', said, found, hrun, ⟨d, l, hcontext⟩, hcontext.symm ▸ hfound, hresult⟩

/-! ### Two spellings -/

/-- A report with one finding. -/
def truthyReport : String :=
  "[\x7b\"check_name\": \"[yaml] Truthy value\", \"location\": " ++
    "\x7b\"path\": \"site@1.yml\", \"lines\": \x7b\"begin\": 3\x7d\x7d\x7d]"

/-- A world in which every command ends with the report. -/
def reportingWorld : (q : Query) → Unit → q.Answer × Unit
  | .run _, w => (.ok { status := some 2, stdout := truthyReport }, w)
  | q, w => silentWorld q w

/-- A workspace with one folder, whose linter is there. -/
def lintedFolder : State :=
  { contexts := [{
      folder := { uri := { scheme := "file", authority := some "", path := "/work" }, name := "work" }
      host := {}
      settings := { validation := { lint := { path := "/usr/bin/ansible-lint" } } } }] }

/-- A document of the folder, spelled as the server spells it. -/
def plainSite : Url := { scheme := "file", authority := some "", path := "/work/site@1.yml" }

/-- The same document, with a sign of its name written as an escape. -/
def spelledSite : Url := { scheme := "file", authority := some "", path := "/work/site%401.yml" }

/-- What is recorded in a world without a state was answered by it. -/
theorem answer_of_mem_said {σ α : Type} (answer : (q : Query) → Unit → q.Answer × Unit) (p : Program σ α) {s s' : σ}
    {w w' : Unit} {v : α} {before said : List Exchange}
    (hrun : p.run (recording answer) s (w, before) = .finished v s' (w', said))
    (hbefore : ∀ x ∈ before, x.answer = (answer x.question ()).1) :
    ∀ x ∈ said, x.answer = (answer x.question ()).1 := by
  induction p generalizing s w before with
  | done v =>
      cases hrun
      exact hbefore
  | ask q next ih =>
      refine ih _ hrun ?_
      simpa [List.mem_append, or_imp, forall_and] using hbefore
  | look next ih => exact ih _ hrun hbefore
  | change f next ih => exact ih hrun hbefore
  | wait ready next ih =>
      rw [Program.run] at hrun
      split at hrun
      next => exact ih hrun hbefore
      next => cases hrun

/-- An executable that is given by its path is trusted to be there. -/
theorem located_of_path {r : Runner} {executable : String} {said : List Exchange} {place : Option String}
    (h : Located r executable said place) (houtside : r.usesEnvironment = false)
    (hnamed : Text.occursIn "/" (r.resolveExecutable executable) = true) :
    place = some (r.resolveExecutable executable) := by
  cases h with
  | trusted huses => exact absurd (houtside.symm.trans huses) Bool.false_ne_true
  | path => rfl
  | found _ _ _ hname => exact absurd (hname.symm.trans hnamed) Bool.false_ne_true
  | listed _ _ _ hname => exact absurd (hname.symm.trans hnamed) Bool.false_ne_true

/-- In that world the linter of the folder is found, and what it found is the report. -/
theorem ToolsFound.eq_report {c : Context} {configs : ConfigCache} {doc : Url} {text : String} {said : List Exchange}
    {found : ByFile} (h : ToolsFound c.runnerNow configs doc text said found)
    (hc : ∃ d l, c = { lintedFolder.context 0 with environment := d, lint := l })
    (hsaid : ∀ x ∈ said, x.answer = (reportingWorld x.question ()).1) :
    ∃ list, found = reportFindings list (lintedFolder.context 0).root
      (.ok { status := some 2, stdout := truthyReport }) := by
  obtain ⟨hsettings, hhost, hroot⟩ : c.runnerNow.settings = (lintedFolder.context 0).settings ∧
      c.runnerNow.host = {} ∧ c.runnerNow.root = (lintedFolder.context 0).root := by
    obtain ⟨d, l, rfl⟩ := hc
    exact ⟨rfl, rfl, rfl⟩
  rw [← hroot]
  generalize c.runnerNow = r at h hsettings hhost
  have houtside : r.usesEnvironment = false := by
    rw [Runner.usesEnvironment, hsettings]
    rfl
  have henabled : r.settings.validation.lint.enabled = true := by
    rw [hsettings]
    rfl
  have hnamed : Text.occursIn "/" (r.resolveExecutable r.settings.validation.lint.path) = true := by
    simp only [Runner.resolveExecutable, hsettings, hhost]
    decide +kernel
  cases h with
  | missing setting looking telling _ _ hlooking =>
      cases located_of_path hlooking houtside hnamed
  | linted setting looking linting place found _ _ _ hlinting =>
      obtain ⟨fs, config, list, opening, running, closing, result, -, -, -, -, -, hran⟩ := hlinting
      cases hran with
      | nowhere huses => exact absurd (houtside.symm.trans huses) Bool.false_ne_true
      | inContainer _ _ _ _ huses => exact absurd (houtside.symm.trans huses) Bool.false_ne_true
      | onHost result =>
          have hresult : result = .ok { status := some 2, stdout := truthyReport } :=
            hsaid _ (List.mem_append_right _ (List.mem_append_right _
              (List.mem_append_right _ (List.mem_append_left _ (List.mem_singleton_self _)))))
          exact ⟨list, by rw [hresult]⟩
  | checked _ _ _ hdisabled => exact absurd (hdisabled.symm.trans henabled) Bool.false_ne_true
  | unchecked _ hdisabled => exact absurd (hdisabled.symm.trans henabled) Bool.false_ne_true

/-- A full pass over a document that names a file comes to its end. If what was found are the findings of a report,
    those about the document's file are returned under the address that the server makes of the file's path. They
    stand in the document's entry exactly if the document's address is spelled in this way, as that of some path;
    else its entry has the structure alone. -/
theorem full_validation_files_findings_under_address_of_file {ω : Type} (answer : (q : Query) → ω → q.Answer × ω)
    {s : State} {n : Nat} (hn : n < s.contexts.length) (henabled : (s.context n).settings.validation.enabled = true)
    (hidle : (s.context n).environment.isBuilding = false) {doc : Url} (hfile : doc.filePath?.isSome = true)
    (text : String) (w : ω) :
    ∃ (address : Url) (result : ByFile) (s' : State) (w' : ω) (said : List Exchange) (found : ByFile),
      pathToUri? (uriToPath doc) = some address ∧ (address = doc ↔ ∃ path, pathToUri? path = some doc) ∧
      (validate n doc text false).run (recording answer) s (w, []) = .finished result s' (w', said) ∧
      (∃ d l, s'.context n = { s.context n with environment := d, lint := l }) ∧
      ToolsFound (s'.context n).runnerNow (s.context n).lint.configs doc text said found ∧
      ∀ (list : WarnList) (o : CommandOutput), hasReport o.status = true →
        found = reportFindings list (s.context n).root (.ok o) →
        (address ≠ doc → (result.get? doc).getD [] = structuralDiagnostics doc text) ∧
        ∀ f ∈ findingsIn o.stdout, ∀ path, f.At path →
          samePath (joinPath (s.context n).root path) (uriToPath doc) = true →
          ∃ d, diagnosticOf? list (s.context n).root f = some (address, d) ∧ d ∈ (result.get? address).getD [] ∧
            (d ∈ (result.get? doc).getD [] ↔ address = doc) := by
  obtain ⟨address, haddress⟩ := exists_pathToUri?_of_filePath? hfile
  have hspelled : address = doc ↔ ∃ path, pathToUri? path = some doc := by
    rw [← pathToUri?_uriToPath_iff, haddress, Option.some_inj]
  obtain ⟨result, s', w', said, found, hrun, hcontext, hfound, hresult⟩ :=
    run_fullValidation answer hn henabled hidle doc text w
  refine ⟨address, result, s', w', said, found, haddress, hspelled, hrun, hcontext, hfound, ?_⟩
  intro list o hreport hlist
  rw [hlist, reportFindings_of_hasReport list _ hreport] at hresult
  exact own_findings_of_report haddress list _ _ text hresult

/-- A document that is spelled as the server spells it has the finding in its own entry. -/
theorem finding_of_plainSite_in_own_entry :
    0 < lintedFolder.contexts.length ∧ (lintedFolder.context 0).settings.validation.enabled = true ∧
    (lintedFolder.context 0).environment.isBuilding = false ∧ plainSite.filePath?.isSome = true ∧
    ∃ (result : ByFile) (s' : State) (said : List Exchange) (d : Diagnostic),
      (validate 0 plainSite "" false).run (recording reportingWorld) lintedFolder ((), []) =
        .finished result s' ((), said) ∧
      d ∈ (result.get? plainSite).getD [] ∧ d.source = lintSource := by
  have hfile : plainSite.filePath?.isSome = true := by decide +kernel
  obtain ⟨address, result, s', w', said, found, haddress, -, hrun, hcontext, hfound, hreport⟩ :=
    full_validation_files_findings_under_address_of_file reportingWorld (s := lintedFolder) (n := 0) (by decide) rfl rfl
      hfile "" ()
  have hspelled : pathToUri? (uriToPath plainSite) = some plainSite := by decide +kernel
  obtain rfl := Option.some.inj (hspelled.symm.trans haddress)
  have hsaid := answer_of_mem_said reportingWorld _ hrun (List.forall_mem_nil _)
  obtain ⟨list, hlist⟩ := hfound.eq_report hcontext hsaid
  have hfindings : ∃ f ∈ findingsIn truthyReport, f.At "site@1.yml" := by decide +kernel
  obtain ⟨f, hf, hat⟩ := hfindings
  obtain ⟨-, hown⟩ := hreport list _ (by decide) hlist
  obtain ⟨d, hd, hmem, -⟩ := hown f hf "site@1.yml" hat (by decide +kernel)
  exact ⟨by decide, rfl, rfl, hfile, result, s', said, d, hrun, hmem, (source_of_diagnosticOf? hd).1⟩

/-- The finding of a report about a document whose address the client spelled in another way is kept from the
    document's entry: it is filed under an address that nobody opened. -/
theorem finding_kept_from_spelledSite :
    (∃ f ∈ findingsIn truthyReport, f.At "site@1.yml") ∧
    samePath (joinPath (lintedFolder.context 0).root "site@1.yml") (uriToPath spelledSite) = true ∧
    ∃ (result : ByFile) (s' : State) (said : List Exchange),
      (validate 0 spelledSite "" false).run (recording reportingWorld) lintedFolder ((), []) =
        .finished result s' ((), said) ∧
      (∀ d ∈ (result.get? spelledSite).getD [], d.source ≠ lintSource) ∧
      ∃ d ∈ (result.get? plainSite).getD [], d.source = lintSource := by
  obtain ⟨result, s', w', said, found, hrun, hcontext, hfound, hresult⟩ :=
    run_fullValidation reportingWorld (s := lintedFolder) (n := 0) (by decide) rfl rfl spelledSite "" ()
  have hsaid := answer_of_mem_said reportingWorld _ hrun (List.forall_mem_nil _)
  obtain ⟨list, hlist⟩ := hfound.eq_report hcontext hsaid
  rw [hlist, reportFindings_of_hasReport list _ (by decide)] at hresult
  have haddress : pathToUri? (uriToPath spelledSite) = some plainSite := by decide +kernel
  obtain ⟨hstructure, hown⟩ := own_findings_of_report haddress list _ _ "" hresult
  have hfindings : ∃ f ∈ findingsIn truthyReport, f.At "site@1.yml" := by decide +kernel
  have hsame : samePath (joinPath (lintedFolder.context 0).root "site@1.yml") (uriToPath spelledSite) = true := by
    decide +kernel
  refine ⟨hfindings, hsame, result, _, said, hrun, fun e he => ?_, ?_⟩
  · rw [hstructure (by decide)] at he
    rw [source_of_mem_structuralDiagnostics he]
    decide
  · obtain ⟨f, hf, hat⟩ := hfindings
    obtain ⟨e, he, hmem, -⟩ := hown f hf "site@1.yml" hat hsame
    exact ⟨e, hmem, (source_of_diagnosticOf? he).1⟩

end Workspace

end PlaybookServer

/-
Module: PlaybookServer.Lint.Run
Purpose: Running the linter on a document: its command line, the configuration it uses, and its report.
Main exports: LintFault, LintState, lint
-/
import PlaybookServer.Lint.Config
import PlaybookServer.Lint.Report
import PlaybookServer.Tool.Runner

namespace PlaybookServer.Lint

open Text Files Effect Tool

/-- Why there are no findings. -/
inductive LintFault where
  | toolNotFound (tool : String)
  | invocation (tool : String) (code : Option Int) (stderr : String)
  | report (tool : String) (reason : String)
  | exec (fault : ExecFault)
deriving DecidableEq, Repr, Inhabited

/-- An exit code inside a message. -/
def codeText : Option Int → String
  | some n => "Some(" ++ toString n ++ ")"
  | none => "None"

/-- The text of a fault. -/
def LintFault.text : LintFault → String
  | .toolNotFound tool => tool ++ " is not installed or not found on PATH"
  | .invocation tool code stderr => tool ++ " failed with exit code " ++ codeText code ++ ": " ++ stderr
  | .report tool reason => "Could not parse the " ++ tool ++ " report: " ++ reason
  | .exec f => f.text

/-- What is kept between runs. -/
structure LintState where
  configs : ConfigCache := []
  /-- The user was told of a report that cannot be read. -/
  reportFaultShown : Bool := false
  /-- The user was told that the linter is missing. -/
  missingToolShown : Bool := false
deriving Repr, Inhabited

/-- A configuration file, and whether the arguments name it. -/
structure ConfigChoice where
  path : Option String
  named : Bool
deriving DecidableEq, Repr, Inhabited

/-- The configuration for a document: the one the arguments name, else the nearest. -/
def chooseConfig (fs : FileView) (arguments doc root : String) : ConfigChoice :=
  match configFromArguments? arguments with
  | some named => ⟨some (joinPath root named), true⟩
  | none => ⟨findConfigFile? fs.isThere doc root, false⟩

/-- Flags that fix the form of the report. -/
def reportFlags : String := "--offline --nocolor -f codeclimate"

/-- The arguments of a run. -/
def lintArguments (settings : LintSettings) (config : ConfigChoice) (doc : String) : String :=
  let given := trimmed settings.arguments
  let chosen := match config.path with
    | some path => if config.named then [] else ["-c " ++ quote path]
    | none => []
  join " " ((if given = "" then [] else [given]) ++ chosen ++ [reportFlags, quote doc])

/-- Paths that a run needs. -/
def lintMounts (config : ConfigChoice) (doc root : String) : List String :=
  root :: (parent? doc).toList ++ (config.path.bind parent?).toList

/-- Exit codes of a run that has a report. -/
def hasReport (status : Option Int) : Bool := status = some 0 || status = some 2

/-- The warn list of a configuration; the user is told if it cannot be read. -/
def warnListFor (config : ConfigChoice) : Program LintState WarnList := do
  match config.path with
  | none => return []
  | some path =>
    let fs ← seeFiles
    let (list, fault) ← changing fun (s : LintState) =>
      let (list, fault, configs) := s.configs.get fs path
      ((list, fault), { s with configs })
    match fault with
    | some message => showError message
    | none => pure ()
    return list

/-- The findings of a report; one that cannot be read has none, and the user is told once. -/
def readReport (tool stdout : String) (warnList : WarnList) (root : String) : Program LintState ByFile := do
  match parseReport stdout warnList root with
  | .ok found => return found
  | .error e =>
    let shown ← changing fun (s : LintState) => (s.reportFaultShown, { s with reportFaultShown := true })
    if shown then return []
    showError (LintFault.report tool e.text).text
    return []

/-- Run the linter on a document. -/
def lint (r : Runner) (settings : LintSettings) (doc : Url) :
    Program LintState (Except LintFault ByFile) := do
  let path := uriToPath doc
  let fs ← seeFiles
  let config := chooseConfig fs settings.arguments path r.root
  let warnList ← warnListFor config
  let progress ← beginProgress "Ansible Lint" "Processing files..."
  let result ← r.run settings.path (lintArguments settings config path) (lintMounts config path r.root)
  endProgress progress
  match result with
  | .error f => return .error (.exec f)
  | .ok o =>
    if hasReport o.status then return .ok (← readReport settings.path o.stdout warnList r.root)
    else return .error (.invocation settings.path o.status (trimmed o.stderr))

end PlaybookServer.Lint

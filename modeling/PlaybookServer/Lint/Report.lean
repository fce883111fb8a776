/-
Module: PlaybookServer.Lint.Report
Purpose: The linter's report and the diagnostics it stands for. A finding counts if it has a check name, a
  path and a starting position; others are left out without harm to the rest.
Main exports: Finding, ruleName, beginPosition?, diagnosticOf?, parseReport
-/
import PlaybookServer.Diagnostic.Model
import PlaybookServer.Files.Path
import PlaybookServer.Json.Stream
import PlaybookServer.Url.File

namespace PlaybookServer.Lint

open Json Files
open Text (Range maxCoordinate)

/-- Where a finding is. -/
structure Location where
  path : Option String := none
  /-- Start by line. -/
  linesBegin : Option Json := none
  /-- Start by position. -/
  positionsBegin : Option Json := none
deriving DecidableEq, Repr, Inhabited

/-- One entry of a report. -/
structure Finding where
  checkName : Option String := none
  description : Option String := none
  categories : List Json := []
  location : Option Location := none
deriving DecidableEq, Repr, Inhabited

/-- Read the start of a stretch; null is no start. -/
def readBegin : Reads (Option Json) :=
  readRecord "Lines" [.of "begin" .optional (readOptional readAny) fun _ v => v] none

/-- Read a location. -/
def readLocation : Reads Location :=
  readRecord "Location"
    [.of "path" .optional (readOptional readText) fun (l : Location) v => { l with path := v },
     .of "lines" .optional (readOptional readBegin) fun l v => { l with linesBegin := v.join },
     .of "positions" .optional (readOptional readBegin) fun l v => { l with positionsBegin := v.join }] {}

/-- Read a finding. -/
def readFinding : Reads Finding :=
  readRecord "Finding"
    [.of "check_name" .optional (readOptional readText) fun (f : Finding) v => { f with checkName := v },
     .of "description" .optional (readOptional readText) fun f v => { f with description := v },
     .of "categories" .defaulted (readListOf readAny) fun f v => { f with categories := v },
     .of "location" .optional (readOptional readLocation) fun f v => { f with location := v }] {}

/-- Characters of rule names. -/
def isRuleChar (c : Char) : Bool := ('a' ≤ c && c ≤ 'z') || c = '-'

/-- The first name in brackets. -/
def bracketedName? : List Char → Option (List Char)
  | [] => none
  | '[' :: rest =>
    let name := rest.takeWhile isRuleChar
    if !name.isEmpty && (rest.dropWhile isRuleChar).head? = some ']' then some name
    else bracketedName? rest
  | _ :: rest => bracketedName? rest

/-- The rule that a check name names: the first name in brackets, else all of it. -/
def ruleName (checkName : String) : String :=
  match bracketedName? checkName.toList with
  | some name => String.ofList name
  | none => checkName

/-- Line and column of a start, counted from one; the column is one unless it is given. -/
def beginPosition? : Json → Option (Nat × Nat)
  | .object fields => do
    let j : Json := .object fields
    let line ← (← j.get? "line").asNat?
    return (line, ((j.get? "column").bind Json.asNat?).getD 1)
  | j => j.asNat?.map (·, 1)

/-- The range of a start: to the end of its line. A line that is too large becomes the last one, a column
    the first. -/
def beginRange (line column : Nat) : Range :=
  let line := min (line - 1) maxCoordinate
  let column := if column - 1 ≤ maxCoordinate then column - 1 else 0
  Range.toLineEnd ⟨line, column⟩

/-- Whether the warn list names the rule or a category. -/
def isDowngraded (warnList : List String) (rule : String) (categories : List Json) : Bool :=
  warnList.contains rule || (categories.filterMap Json.asString?).any warnList.contains

/-- The name shown as the source of the linter's findings. -/
def lintSource : String := "Ansible"

/-- The file and diagnostic of a finding. -/
def diagnosticOf? (warnList : List String) (dir : String) (f : Finding) : Option (Url × Diagnostic) := do
  let check ← f.checkName
  let location ← f.location
  let path ← location.path
  let begin ← location.positionsBegin.or location.linesBegin
  let (line, column) ← beginPosition? begin
  let uri ← pathToUri? (joinPath dir path)
  let message := match f.description with
    | some d => if d = "" then check else check ++ "\nDescription: " ++ d
    | none => check
  let rule := ruleName check
  return (uri, {
    range := beginRange line column
    severity := if isDowngraded warnList rule f.categories then .warning else .error
    message, source := lintSource, code := some rule })

/-- Diagnostics of findings, in report order within each file. -/
def collect (warnList : List String) (dir : String) (findings : List Finding) : ByFile :=
  (findings.filterMap (diagnosticOf? warnList dir)).foldl (fun (m : ByFile) (uri, d) => m.add uri [d]) []

/-- Diagnostics of a report. An empty report has none. -/
def parseReport (stdout : String) (warnList : List String) (dir : String) : Except ReadFault ByFile :=
  if Text.isBlankLine stdout.toList then .ok []
  else (ofTextWith (readListOf readFinding) stdout).map (collect warnList dir)

end PlaybookServer.Lint

/-
Module: PlaybookServer.Lint.SyntaxCheck
Purpose: The tool's own check of a playbook's syntax, and the place that its fault report names.
Main exports: FaultPlace, faultPlace?, syntaxDiagnostic, syntaxCheck
-/
import PlaybookServer.Lint.Report
import PlaybookServer.Text.Digit
import PlaybookServer.Tool.Runner

namespace PlaybookServer.Lint

open Text Files Effect Tool

/-- A place in a fault report, as it is written there. -/
structure FaultPlace where
  file : List Char
  line : List Char
  column : List Char
deriving DecidableEq, Repr, Inhabited

/-- Digits at the start and what follows them; there is at least one. -/
def leadingDigits? (cs : List Char) : Option (List Char × List Char) :=
  let ds := cs.takeWhile isDecimalDigit
  if ds.isEmpty then none else some (ds, cs.drop ds.length)

/-- Line and column at the start of what follows a file name. -/
def lineAndColumn? (cs : List Char) : Option (List Char × List Char) := do
  let rest ← stripStem? "': line ".toList cs
  let (line, rest) ← leadingDigits? rest
  let rest ← stripStem? ", column ".toList rest
  let (column, _) ← leadingDigits? rest
  return (line, column)

/-- The longest file name that line and column follow. -/
def placeAfter? (name : List Char) : List Char → Option FaultPlace
  | [] => none
  | c :: cs =>
    (placeAfter? (name ++ [c]) cs).orElse fun _ =>
      (lineAndColumn? (c :: cs)).map fun (line, column) => ⟨name, line, column⟩

/-- The first place that a fault report names; a place stands on one line. -/
def faultPlace? : List Char → Option FaultPlace
  | [] => none
  | c :: cs =>
    let here := (stripStem? "The error appears to be in '".toList (c :: cs)).bind fun rest =>
      placeAfter? [] (rest.takeWhile (· ≠ '\n'))
    here.orElse fun _ => faultPlace? cs

/-- A number in the range of coordinates. -/
def coordinate? (cs : List Char) : Option Nat := (decimalValue? cs).filter (· ≤ maxCoordinate)

/-- The file, line and column that a fault report names. -/
def locatedFault? (report root : String) : Option (Url × Nat × Nat) := do
  let p ← faultPlace? report.toList
  let line ← coordinate? p.line
  let column ← coordinate? p.column
  let uri ← pathToUri? (joinPath root (String.ofList p.file))
  return (uri, line, column)

/-- The diagnostic of a fault report: at the place it names, else at the start of the document. -/
def syntaxDiagnostic (report : String) (doc : Url) (root : String) : Url × Diagnostic :=
  let (uri, line, column) := (locatedFault? report root).getD (doc, 1, 1)
  (uri, {
    range := Range.toLineEnd ⟨line - 1, column - 1⟩
    severity := .error
    message := trimmed report
    source := lintSource })

/-- Check the syntax of a playbook. -/
def syntaxCheck {σ : Type} (r : Runner) (doc : Url) : Program σ (Except ExecFault ByFile) := do
  let path := uriToPath doc
  match ← r.run "ansible-playbook" (quote path ++ " --syntax-check") (parent? path).toList with
  | .error f => return .error f
  | .ok o =>
    if o.success then return .ok []
    let (uri, d) := syntaxDiagnostic o.stderr doc r.root
    return .ok (ByFile.add [] uri [d])

end PlaybookServer.Lint

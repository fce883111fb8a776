/-
Module: PlaybookServer.Inspect.Findings
Purpose: Points, ranges, diagnostics and completion candidates as JSON, for a look at what was found.
Main exports: ofPoint, ofRange, ofSpan, ofDiagnostic, ofByFile, ofCandidate, ofCompletion
-/
import PlaybookServer.Completion.Candidate
import PlaybookServer.Diagnostic.Codec
import PlaybookServer.Text.Span

namespace PlaybookServer.Inspect

open Text (Point Range Span)

/-- Numbers. -/
def ofNats (xs : List Nat) : Json := .array (xs.map Json.nat)

/-- A text that may be missing. -/
def textOrNull : Option String → Json := Json.ofOption .string

/-- A point: its line and column. -/
def ofPoint (p : Point) : Json := ofNats [p.line, p.col]

/-- A range: its two points. -/
def ofRange (r : Range) : Json := .array [ofPoint r.start, ofPoint r.stop]

/-- A span: its two offsets. -/
def ofSpan (s : Span) : Json := ofNats [s.start, s.stop]

/-- A diagnostic. -/
def ofDiagnostic (d : Diagnostic) : Json :=
  .object
    [("range", ofRange d.range), ("severity", .string d.severity.word), ("message", .string d.message),
     ("source", .string d.source), ("code", textOrNull d.code), ("code_url", textOrNull d.codeUrl),
     ("related", .array (d.related.map fun r =>
        .array [.string r.uri.text, ofRange r.range, .string r.message]))]

/-- Diagnostics by file. -/
def ofByFile (m : ByFile) : Json :=
  .array (m.map fun (u, ds) => .array [.string u.text, .array (ds.map ofDiagnostic)])

/-- The word for a kind of candidate. -/
def kindWord : Completion.CandidateKind → String
  | .keyword => "Keyword"
  | .indexedModule => "Module"
  | .redirectedModule => "RedirectedModule"
  | .option => "Option"
  | .alternateName => "Alias"
  | .value => "Value"
  | .templateVariable => "Variable"

/-- A field that is left out when there is nothing to show. -/
def given (name : String) (v : Option Json) : List (String × Json) := v.toList.map (name, ·)

/-- A candidate in full. -/
def ofCandidate (c : Completion.Candidate) : Json :=
  .object (
    [("label", .string c.label), ("kind", .string (kindWord c.kind)), ("sort", .string c.sortText),
     ("insert", .string c.insertText)]
    ++ given "detail" (c.detail.map .string) ++ given "doc" (c.documentation.map .string)
    ++ given "filter" (c.filterText.map .string) ++ given "module" (c.moduleName.map .string)
    ++ given "edit" (c.edit.map fun e => .array [ofRange e.range, .string e.newText])
    ++ given "snippet" (if c.isSnippet then some (.bool true) else none))

/-- Label and rank of a candidate. -/
def ofCandidateBriefly (c : Completion.Candidate) : Json :=
  .array [.string c.label, .nat c.priority, .nat c.order]

/-- The result of a completion. -/
def ofCompletion (brief : Bool) : Option (List Completion.Candidate) → Json :=
  Json.ofOption fun cs => .array (cs.map (if brief then ofCandidateBriefly else ofCandidate))

end PlaybookServer.Inspect

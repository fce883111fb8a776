/-
Module: PlaybookServer.Diagnostic.Codec
Purpose: The JSON form of diagnostics, written and read back.
Main exports: Diagnostic.toJson, Diagnostic.ofText
-/
import PlaybookServer.Diagnostic.Model
import PlaybookServer.Json.Stream

namespace PlaybookServer

open Json
open Text (Point Range)

/-- A point as JSON. -/
def pointToJson (p : Point) : Json := .object [("line", .nat p.line), ("col", .nat p.col)]

/-- A range as JSON. -/
def rangeToJson (r : Range) : Json := .object [("start", pointToJson r.start), ("end", pointToJson r.stop)]

/-- Words for severities. -/
def Severity.words : List (String × Severity) :=
  [("Error", .error), ("Warning", .warning), ("Information", .information)]

/-- Word of a severity. -/
def Severity.word : Severity → String
  | .error => "Error"
  | .warning => "Warning"
  | .information => "Information"

/-- A related place as JSON. -/
def Related.toJson (r : Related) : Json :=
  .object [("uri", .string r.uri.text), ("range", rangeToJson r.range), ("message", .string r.message)]

/-- A diagnostic as JSON. -/
def Diagnostic.toJson (d : Diagnostic) : Json :=
  .object
    [("range", rangeToJson d.range), ("severity", .string d.severity.word),
     ("message", .string d.message), ("source", .string d.source),
     ("code", Json.ofOption .string d.code), ("code_url", Json.ofOption .string d.codeUrl),
     ("related", .array (d.related.map Related.toJson))]

/-- Read a point. -/
def readPoint : Reads Point :=
  readRecord "Point"
    [.of "line" .required readUnsigned32 fun (p : Point) v => { p with line := v },
     .of "col" .required readUnsigned32 fun p v => { p with col := v }] ⟨0, 0⟩

/-- Read a range. -/
def readRange : Reads Range :=
  readRecord "TextRange"
    [.of "start" .required readPoint fun (r : Range) v => { r with start := v },
     .of "end" .required readPoint fun r v => { r with stop := v }] default

/-- Read an address. -/
def readUrl : Reads Url :=
  readTextWith "a string representing an URL" fun s =>
    match Url.parse s with
    | .ok u => .ok u
    | .error e => .error (e.message ++ ": " ++ Text.escaped s)

/-- Read a related place. -/
def readRelated : Reads Related :=
  readRecord "RelatedInformation"
    [.of "uri" .required readUrl fun (r : Related) v => { r with uri := v },
     .of "range" .required readRange fun r v => { r with range := v },
     .of "message" .required readText fun r v => { r with message := v }] default

/-- Read a diagnostic. -/
def readDiagnostic : Reads Diagnostic :=
  readRecord "Diagnostic"
    [.of "range" .required readRange fun (d : Diagnostic) v => { d with range := v },
     .of "severity" .required (readWord Severity.words) fun d v => { d with severity := v },
     .of "message" .required readText fun d v => { d with message := v },
     .of "source" .required readText fun d v => { d with source := v },
     .of "code" .optional (readOptional readText) fun d v => { d with code := v },
     .of "code_url" .optional (readOptional readText) fun d v => { d with codeUrl := v },
     .of "related" .required (readListOf readRelated) fun d v => { d with related := v }] default

/-- A diagnostic from its JSON text. -/
def Diagnostic.ofText (text : String) : Except ReadFault Diagnostic := ofTextWith readDiagnostic text

end PlaybookServer

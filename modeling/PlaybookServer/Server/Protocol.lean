/-
Module: PlaybookServer.Server.Protocol
Purpose: Shapes that many messages share: addresses, places in documents, edits, commands and diagnostics, and
  what a client may add to any request.
Main exports: decodeUrl, url, position, range, document, command, diagnostic, workspaceEdit, progress, partialResult
-/
import PlaybookServer.Json.Shape
import PlaybookServer.Url.Parse

namespace PlaybookServer.Server

open Json

/-- An address. -/
def decodeUrl : Json → Except String Url
  | .string s =>
    match Url.parse s with
    | .ok u => .ok u
    | .error e => .error (e.message ++ ": " ++ Text.escaped s)
  | j => .error (wrongKind j "a string representing an URL")

namespace Protocol

open Shape

/-- An address. -/
def url : Shape := fun _ j => (decodeUrl j).map fun u => .string u.text

/-- A field that may hold a truth value. -/
def flag (name : String) : Member := .perhaps name bool

/-- A field that may hold a text. -/
def note (name : String) : Member := .perhaps name text

/-- A field that may hold anything. -/
def extra (name : String) : Member := .perhaps name any

/-- A number or a text. -/
def numberOrText : Shape := firstOf "NumberOrString" [signed32, text]

/-! ### Places -/

/-- A position. -/
def position : Shape := record "Position" [.needed "line" unsigned32, .needed "character" unsigned32]

/-- A range. -/
def range : Shape := record "Range" [.needed "start" position, .needed "end" position]

/-- A range in a document. -/
def location : Shape := record "Location" [.needed "uri" url, .needed "range" range]

/-- A document. -/
def document : Shape := record "TextDocumentIdentifier" [.needed "uri" url]

/-- A document, as a field. -/
def theDocument : Member := .needed "textDocument" document

/-- A position in a document, as fields. -/
def place : List Member := [theDocument, .needed "position" position]

/-- The token under which the client is told of progress. -/
def progress : List Member := [.perhaps "workDoneToken" numberOrText]

/-- The token under which the client gets results bit by bit. -/
def partialResult : List Member := [.perhaps "partialResultToken" numberOrText]

/-! ### Text and commands -/

/-- Kinds of text. -/
def markupKind : Shape := word ["plaintext", "markdown"]

/-- Text with or without marks. -/
def markup : Shape := record "MarkupContent" [.needed "kind" markupKind, .needed "value" text]

/-- Text of either form. -/
def documentation (what : String) : Shape := firstOf what [text, markup]

/-- A command of the client. -/
def command : Shape :=
  record "Command" [.needed "title" text, .needed "command" text, .perhaps "arguments" (list any)]

/-! ### Edits -/

/-- The fields of an edit. -/
def editFields : List Member := [.needed "range" range, .needed "newText" text]

/-- An edit. -/
def edit : Shape := record "TextEdit" editFields

/-- An edit with two ranges. -/
def twoRangeEdit : Shape :=
  record "InsertReplaceEdit" [.needed "newText" text, .needed "insert" range, .needed "replace" range]

/-- An edit with a remark. -/
def annotatedEdit : Shape := spread "AnnotatedTextEdit" [.needed "annotationId" text] [editFields]

/-- Edits of a document at a version. -/
def documentEdit : Shape :=
  record "TextDocumentEdit"
    [.needed "textDocument"
      (record "OptionalVersionedTextDocumentIdentifier" [.needed "uri" url, .perhaps "version" signed32]),
     .needed "edits" (list (firstOf "OneOf" [edit, annotatedEdit]))]

/-- Creation, renaming or deletion of a file. -/
def fileOperation : Shape :=
  tagged "kind"
    [("create", record "CreateFile"
      [.needed "uri" url,
       .perhaps "options" (record "CreateFileOptions" [flag "overwrite", flag "ignoreIfExists"]),
       note "annotationId"]),
     ("rename", record "RenameFile"
      [.needed "oldUri" url, .needed "newUri" url,
       .perhaps "options" (record "RenameFileOptions" [flag "overwrite", flag "ignoreIfExists"]),
       note "annotationId"]),
     ("delete", record "DeleteFile"
      [.needed "uri" url,
       .perhaps "options" (record "DeleteFileOptions"
         [flag "recursive", flag "ignoreIfNotExists", note "annotationId"])])]

/-- A name that must be an address. -/
def urlName (name : String) : Except String Unit :=
  match Url.parse name with
  | .ok _ => .ok ()
  | .error e => .error e.message

/-- Edits of a workspace. -/
def workspaceEdit : Shape :=
  record "WorkspaceEdit"
    [.defaulted "changes" (optional (dictionary "map" urlName (list edit))),
     .perhaps "documentChanges" (firstOf "DocumentChanges"
       [list documentEdit, list (firstOf "DocumentChangeOperation" [fileOperation, documentEdit])]),
     .perhaps "changeAnnotations" (mapOf (record "ChangeAnnotation"
       [.needed "label" text, flag "needsConfirmation", note "description"]))]

/-! ### Diagnostics and symbols -/

/-- A diagnostic. -/
def diagnostic : Shape :=
  record "Diagnostic"
    [.needed "range" range, .perhaps "severity" signed32, .perhaps "code" numberOrText,
     .perhaps "codeDescription" (record "CodeDescription" [.needed "href" url]),
     note "source", .needed "message" text,
     .perhaps "relatedInformation" (list (record "DiagnosticRelatedInformation"
       [.needed "location" location, .needed "message" text])),
     .perhaps "tags" (list signed32), extra "data"]

/-- An item of a hierarchy, with the shape of its tags. -/
def hierarchyItem (name : String) (tags : Shape) : Shape :=
  record name
    [.needed "name" text, .needed "kind" signed32, .perhaps "tags" tags, note "detail", .needed "uri" url,
     .needed "range" range, .needed "selectionRange" range, extra "data"]

end Protocol

end PlaybookServer.Server

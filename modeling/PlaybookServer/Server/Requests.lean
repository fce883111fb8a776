/-
Module: PlaybookServer.Server.Requests
Purpose: Requests that the server knows but does not serve. Their parameters must have their shapes, which is
  looked at before the request is turned down.
Main exports: Protocol.completionItem, Protocol.completionParams, unservedRequests, unusedNotifications
-/
import PlaybookServer.Server.Protocol

namespace PlaybookServer.Server

open Json

namespace Protocol

open Shape

/-- A request at a position. -/
def atPlace (name : String) : Shape := spread name [] [place, progress]

/-- A request at a position whose results may come bit by bit. -/
def atPlacePartly (name : String) : Shape := spread name [] [place, progress, partialResult]

/-- A request about a document, with further fields, whose results may come bit by bit. -/
def aboutDocument (name : String) (more : List Member) : Shape :=
  spread name (theDocument :: more) [progress, partialResult]

/-! ### Completion -/

/-- Where and why completion is asked for. -/
def completionParams : Shape :=
  spread "CompletionParams"
    [.perhaps "context" (record "CompletionContext" [.needed "triggerKind" signed32, note "triggerCharacter"])]
    [place, progress, partialResult]

/-- A completion item. -/
def completionItem : Shape :=
  record "CompletionItem"
    [.needed "label" text,
     .perhaps "labelDetails" (record "CompletionItemLabelDetails" [note "detail", note "description"]),
     .perhaps "kind" signed32, note "detail", .perhaps "documentation" (documentation "Documentation"),
     flag "deprecated", flag "preselect", note "sortText", note "filterText", note "insertText",
     .perhaps "insertTextFormat" signed32, .perhaps "insertTextMode" signed32,
     .perhaps "textEdit" (firstOf "CompletionTextEdit" [edit, twoRangeEdit]),
     .perhaps "additionalTextEdits" (list edit), .perhaps "command" command,
     .perhaps "commitCharacters" (list text), extra "data", .perhaps "tags" (list signed32)]

/-! ### Signatures -/

/-- Help on a signature. -/
def signatureHelp : Shape :=
  record "SignatureHelp"
    [.needed "signatures" (list (record "SignatureInformation"
       [.needed "label" text, .perhaps "documentation" (documentation "Documentation"),
        .perhaps "parameters" (list (record "ParameterInformation"
          [.needed "label" (firstOf "ParameterLabel"
            [text, pair unsigned32]),
           .perhaps "documentation" (documentation "Documentation")])),
        .perhaps "activeParameter" unsigned32])),
     .perhaps "activeSignature" unsigned32, .perhaps "activeParameter" unsigned32]

/-- Where and why help on a signature is asked for. -/
def signatureParams : Shape :=
  spread "SignatureHelpParams"
    [.perhaps "context" (record "SignatureHelpContext"
      [.needed "triggerKind" signed32, note "triggerCharacter", .needed "isRetrigger" bool,
       .perhaps "activeSignatureHelp" signatureHelp])]
    [place, progress]

/-! ### Actions, links and hints -/

/-- An action on code. -/
def codeAction : Shape :=
  record "CodeAction"
    [.needed "title" text, note "kind", .perhaps "diagnostics" (list diagnostic),
     .perhaps "edit" workspaceEdit, .perhaps "command" command, flag "isPreferred",
     .perhaps "disabled" (record "CodeActionDisabled" [.needed "reason" text]), extra "data"]

/-- Why actions are asked for. -/
def actionContext : Shape :=
  record "CodeActionContext"
    [.needed "diagnostics" (list diagnostic), .perhaps "only" (list text), .perhaps "triggerKind" signed32]

/-- A remark between the characters of a text. -/
def inlayHint : Shape :=
  record "InlayHint"
    [.needed "position" position,
     .needed "label" (firstOf "InlayHintLabel"
       [text, list (record "InlayHintLabelPart"
         [.needed "value" text, .perhaps "tooltip" (documentation "InlayHintLabelPartTooltip"),
          .perhaps "location" location, .perhaps "command" command])]),
     .perhaps "kind" signed32, .perhaps "textEdits" (list edit),
     .perhaps "tooltip" (documentation "InlayHintTooltip"), flag "paddingLeft", flag "paddingRight", extra "data"]

/-- A symbol of a workspace. -/
def workspaceSymbol : Shape :=
  record "WorkspaceSymbol"
    [.needed "name" text, .needed "kind" signed32, .perhaps "tags" (list signed32), note "containerName",
     .needed "location" (firstOf "OneOf" [location, record "WorkspaceLocation" [.needed "uri" url]]),
     extra "data"]

/-- How a text is to be formatted. -/
def formattingOptions : Shape :=
  extended "FormattingOptions"
    [.needed "tabSize" unsigned32, .needed "insertSpaces" bool, flag "trimTrailingWhitespace",
     flag "insertFinalNewline", flag "trimFinalNewlines"]
    (firstOf "FormattingProperty" [bool, signed32, text])

/-- Files by the names of their address fields. -/
def fileList (name item : String) (fields : List String) : Shape :=
  record name [.needed "files" (list (record item (fields.map (.needed · text))))]

/-- A color. -/
def color : Shape :=
  record "Color" [.needed "red" fraction, .needed "green" fraction, .needed "blue" fraction, .needed "alpha" fraction]

/-- An item of a hierarchy, and the tokens of the request. -/
def aboutItem (name : String) (item : Shape) : Shape := spread name [.needed "item" item] [progress, partialResult]

end Protocol

open Protocol Shape

/-- Requests at a position. -/
def positionRequests : List (String × Shape) :=
  [("textDocument/declaration", atPlacePartly "GotoDefinitionParams"),
   ("textDocument/definition", atPlacePartly "GotoDefinitionParams"),
   ("textDocument/typeDefinition", atPlacePartly "GotoDefinitionParams"),
   ("textDocument/implementation", atPlacePartly "GotoDefinitionParams"),
   ("textDocument/references", spread "ReferenceParams"
     [.needed "context" (record "ReferenceContext" [.needed "includeDeclaration" bool])]
     [place, progress, partialResult]),
   ("textDocument/documentHighlight", atPlacePartly "DocumentHighlightParams"),
   ("textDocument/moniker", atPlacePartly "MonikerParams"),
   ("textDocument/hover", atPlace "HoverParams"),
   ("textDocument/linkedEditingRange", atPlace "LinkedEditingRangeParams"),
   ("textDocument/prepareCallHierarchy", atPlace "CallHierarchyPrepareParams"),
   ("textDocument/prepareTypeHierarchy", atPlace "TypeHierarchyPrepareParams"),
   ("textDocument/prepareRename", record "TextDocumentPositionParams" place),
   ("textDocument/rename", spread "RenameParams" [.needed "newName" text] [place, progress]),
   ("textDocument/signatureHelp", signatureParams),
   ("textDocument/onTypeFormatting", spread "DocumentOnTypeFormattingParams"
     [.needed "ch" text, .needed "options" formattingOptions] [place])]

/-- Requests about a whole document. -/
def documentRequests : List (String × Shape) :=
  [("textDocument/documentLink", aboutDocument "DocumentLinkParams" []),
   ("textDocument/codeLens", aboutDocument "CodeLensParams" []),
   ("textDocument/foldingRange", aboutDocument "FoldingRangeParams" []),
   ("textDocument/documentSymbol", aboutDocument "DocumentSymbolParams" []),
   ("textDocument/documentColor", aboutDocument "DocumentColorParams" []),
   ("textDocument/semanticTokens/full", aboutDocument "SemanticTokensParams" []),
   ("textDocument/semanticTokens/full/delta",
     aboutDocument "SemanticTokensDeltaParams" [.needed "previousResultId" text]),
   ("textDocument/semanticTokens/range", aboutDocument "SemanticTokensRangeParams" [.needed "range" range]),
   ("textDocument/selectionRange", aboutDocument "SelectionRangeParams" [.needed "positions" (list position)]),
   ("textDocument/colorPresentation",
     aboutDocument "ColorPresentationParams" [.needed "color" color, .needed "range" range]),
   ("textDocument/codeAction",
     aboutDocument "CodeActionParams" [.needed "range" range, .needed "context" actionContext]),
   ("textDocument/diagnostic",
     aboutDocument "DocumentDiagnosticParams" [note "identifier", note "previousResultId"]),
   ("textDocument/inlineValue", spread "InlineValueParams"
     [theDocument, .needed "range" range,
      .needed "context" (record "InlineValueContext"
        [.needed "frameId" signed32, .needed "stoppedLocation" range])] [progress]),
   ("textDocument/inlayHint", spread "InlayHintParams" [theDocument, .needed "range" range] [progress]),
   ("textDocument/formatting",
     spread "DocumentFormattingParams" [theDocument, .needed "options" formattingOptions] [progress]),
   ("textDocument/rangeFormatting", spread "DocumentRangeFormattingParams"
     [theDocument, .needed "range" range, .needed "options" formattingOptions] [progress]),
   ("textDocument/willSaveWaitUntil",
     record "WillSaveTextDocumentParams" [theDocument, .needed "reason" signed32])]

/-- Requests to fill in what an earlier reply left out. -/
def resolvingRequests : List (String × Shape) :=
  [("documentLink/resolve", record "DocumentLink"
     [.needed "range" range, .perhaps "target" url, note "tooltip", extra "data"]),
   ("codeLens/resolve", record "CodeLens" [.needed "range" range, .perhaps "command" command, extra "data"]),
   ("inlayHint/resolve", inlayHint), ("codeAction/resolve", codeAction),
   ("workspaceSymbol/resolve", workspaceSymbol),
   ("callHierarchy/incomingCalls",
     aboutItem "CallHierarchyIncomingCallsParams" (hierarchyItem "CallHierarchyItem" (list signed32))),
   ("callHierarchy/outgoingCalls",
     aboutItem "CallHierarchyOutgoingCallsParams" (hierarchyItem "CallHierarchyItem" (list signed32))),
   ("typeHierarchy/supertypes",
     aboutItem "TypeHierarchySupertypesParams" (hierarchyItem "TypeHierarchyItem" signed32)),
   ("typeHierarchy/subtypes",
     aboutItem "TypeHierarchySubtypesParams" (hierarchyItem "TypeHierarchyItem" signed32))]

/-- Requests about the workspace. -/
def workspaceRequests : List (String × Shape) :=
  [("workspace/symbol", spread "WorkspaceSymbolParams" [.needed "query" text] [partialResult, progress]),
   ("workspace/diagnostic", spread "WorkspaceDiagnosticParams"
     [note "identifier",
      .needed "previousResultIds" (list (record "PreviousResultId" [.needed "uri" url, .needed "value" text]))]
     [progress, partialResult]),
   ("workspace/executeCommand", spread "ExecuteCommandParams"
     [.needed "command" text, .defaulted "arguments" (list any)] [progress]),
   ("workspace/willCreateFiles", fileList "CreateFilesParams" "FileCreate" ["uri"]),
   ("workspace/willRenameFiles", fileList "RenameFilesParams" "FileRename" ["oldUri", "newUri"]),
   ("workspace/willDeleteFiles", fileList "DeleteFilesParams" "FileDelete" ["uri"])]

/-- Requests that the server knows but does not serve, with the shapes of their parameters. -/
def unservedRequests : List (String × Shape) :=
  positionRequests ++ documentRequests ++ resolvingRequests ++ workspaceRequests

/-- Notifications that the server knows but does not use. -/
def unusedNotifications : List String :=
  ["textDocument/willSave", "workspace/didCreateFiles", "workspace/didRenameFiles", "workspace/didDeleteFiles"]

end PlaybookServer.Server

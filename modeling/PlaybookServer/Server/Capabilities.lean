/-
Module: PlaybookServer.Server.Capabilities
Purpose: The shape of what a client says it can do. Only whether it shows progress is used; the rest must have
  its shape all the same.
Main exports: Protocol.capabilities
-/
import PlaybookServer.Server.Protocol

namespace PlaybookServer.Server.Protocol

open Json Json.Shape

/-- The field that says whether a feature can be registered later. -/
def dynamic : Member := flag "dynamicRegistration"

/-- A feature of which nothing else is said. -/
def simpleFeature : Shape := record "DynamicRegistrationClientCapabilities" [dynamic]

/-- A record that says whether the client can be told to ask again. -/
def refreshing (name : String) : Shape := record name [flag "refreshSupport"]

/-- A record of the fields that can be filled in later. -/
def resolving (name : String) : Shape := record name [.needed "properties" (list text)]

/-- A field of supported tags, or a truth value in its place. -/
def tagSupport : Member :=
  .defaulted "tagSupport" fun isCopy j =>
    match j with
    | .null | .bool _ => .ok .null
    | j => record "TagSupport" [.needed "valueSet" (list signed32)] isCopy j

/-- A record of the values that are supported. -/
def valueSet (name : String) (value : Shape) : Shape := record name [.perhaps "valueSet" (list value)]

/-- A feature that leads to places. -/
def goto : Shape := record "GotoCapability" [dynamic, flag "linkSupport"]

/-! ### Workspaces -/

/-- Edits of a workspace. -/
def workspaceEditFeature : Shape :=
  record "WorkspaceEditClientCapabilities"
    [flag "documentChanges", .perhaps "resourceOperations" (list (word ["create", "rename", "delete"])),
     .perhaps "failureHandling" (word ["abort", "transactional", "textOnlyTransactional", "undo"]),
     flag "normalizesLineEndings",
     .perhaps "changeAnnotationSupport"
       (record "ChangeAnnotationWorkspaceEditClientCapabilities" [flag "groupsOnLabel"])]

/-- Features of workspaces. -/
def workspaceFeatures : Shape :=
  record "WorkspaceClientCapabilities"
    [flag "applyEdit", .perhaps "workspaceEdit" workspaceEditFeature,
     .perhaps "didChangeConfiguration" simpleFeature,
     .perhaps "didChangeWatchedFiles"
       (record "DidChangeWatchedFilesClientCapabilities" [dynamic, flag "relativePatternSupport"]),
     .perhaps "symbol" (record "WorkspaceSymbolClientCapabilities"
       [dynamic, .perhaps "symbolKind" (valueSet "SymbolKindCapability" signed32), tagSupport,
        .perhaps "resolveSupport" (resolving "WorkspaceSymbolResolveSupportCapability")]),
     .perhaps "executeCommand" simpleFeature, flag "workspaceFolders", flag "configuration",
     .perhaps "semanticTokens" (refreshing "SemanticTokensWorkspaceClientCapabilities"),
     .perhaps "codeLens" (refreshing "CodeLensWorkspaceClientCapabilities"),
     .perhaps "fileOperations" (record "WorkspaceFileOperationsClientCapabilities"
       [dynamic, flag "didCreate", flag "willCreate", flag "didRename", flag "willRename", flag "didDelete",
        flag "willDelete"]),
     .perhaps "inlineValue" (refreshing "InlineValueWorkspaceClientCapabilities"),
     .perhaps "inlayHint" (refreshing "InlayHintWorkspaceClientCapabilities"),
     .perhaps "diagnostic" (refreshing "DiagnosticWorkspaceClientCapabilities")]

/-! ### Documents -/

/-- Completion. -/
def completionFeature : Shape :=
  record "CompletionClientCapabilities"
    [dynamic,
     .perhaps "completionItem" (record "CompletionItemCapability"
       [flag "snippetSupport", flag "commitCharactersSupport", .perhaps "documentationFormat" (list markupKind),
        flag "deprecatedSupport", flag "preselectSupport", tagSupport, flag "insertReplaceSupport",
        .perhaps "resolveSupport" (resolving "CompletionItemCapabilityResolveSupport"),
        .perhaps "insertTextModeSupport"
          (record "InsertTextModeSupport" [.needed "valueSet" (list signed32)]),
        flag "labelDetailsSupport"]),
     .perhaps "completionItemKind" (valueSet "CompletionItemKindCapability" signed32), flag "contextSupport",
     .perhaps "insertTextMode" signed32,
     .perhaps "completionList" (record "CompletionListCapability" [.perhaps "itemDefaults" (list text)])]

/-- Help on signatures. -/
def signatureFeature : Shape :=
  record "SignatureHelpClientCapabilities"
    [dynamic,
     .perhaps "signatureInformation" (record "SignatureInformationSettings"
       [.perhaps "documentationFormat" (list markupKind),
        .perhaps "parameterInformation" (record "ParameterInformationSettings" [flag "labelOffsetSupport"]),
        flag "activeParameterSupport"]),
     flag "contextSupport"]

/-- Actions on code. -/
def actionFeature : Shape :=
  record "CodeActionClientCapabilities"
    [dynamic,
     .perhaps "codeActionLiteralSupport" (record "CodeActionLiteralSupport"
       [.needed "codeActionKind" (record "CodeActionKindLiteralSupport" [.needed "valueSet" (list text)])]),
     flag "isPreferredSupport", flag "disabledSupport", flag "dataSupport",
     .perhaps "resolveSupport" (resolving "CodeActionCapabilityResolveSupport"), flag "honorsChangeAnnotations"]

/-- Tokens by meaning. -/
def tokenFeature : Shape :=
  record "SemanticTokensClientCapabilities"
    [dynamic,
     .needed "requests" (record "SemanticTokensClientCapabilitiesRequests"
       [flag "range",
        .perhaps "full" (firstOf "SemanticTokensFullOptions"
          [bool, record "SemanticTokensFullOptions" [flag "delta"]])]),
     .needed "tokenTypes" (list text), .needed "tokenModifiers" (list text), .needed "formats" (list text),
     flag "overlappingTokenSupport", flag "multilineTokenSupport", flag "serverCancelSupport",
     flag "augmentsSyntaxTokens"]

/-- Ranges that can be folded. -/
def foldingFeature : Shape :=
  record "FoldingRangeClientCapabilities"
    [dynamic, .perhaps "rangeLimit" unsigned32, flag "lineFoldingOnly",
     .perhaps "foldingRangeKind"
       (valueSet "FoldingRangeKindCapability" (word ["comment", "imports", "region"])),
     .perhaps "foldingRange" (record "FoldingRangeCapability" [flag "collapsedText"])]

/-- Features of documents. -/
def documentFeatures : Shape :=
  record "TextDocumentClientCapabilities"
    [.perhaps "synchronization" (record "TextDocumentSyncClientCapabilities"
       [dynamic, flag "willSave", flag "willSaveWaitUntil", flag "didSave"]),
     .perhaps "completion" completionFeature,
     .perhaps "hover" (record "HoverClientCapabilities" [dynamic, .perhaps "contentFormat" (list markupKind)]),
     .perhaps "signatureHelp" signatureFeature,
     .perhaps "references" simpleFeature, .perhaps "documentHighlight" simpleFeature,
     .perhaps "documentSymbol" (record "DocumentSymbolClientCapabilities"
       [dynamic, .perhaps "symbolKind" (valueSet "SymbolKindCapability" signed32),
        flag "hierarchicalDocumentSymbolSupport", tagSupport]),
     .perhaps "formatting" simpleFeature, .perhaps "rangeFormatting" simpleFeature,
     .perhaps "onTypeFormatting" simpleFeature,
     .perhaps "declaration" goto, .perhaps "definition" goto, .perhaps "typeDefinition" goto,
     .perhaps "implementation" goto,
     .perhaps "codeAction" actionFeature, .perhaps "codeLens" simpleFeature,
     .perhaps "documentLink" (record "DocumentLinkClientCapabilities" [dynamic, flag "tooltipSupport"]),
     .perhaps "colorProvider" simpleFeature,
     .perhaps "rename" (record "RenameClientCapabilities"
       [dynamic, flag "prepareSupport", .perhaps "prepareSupportDefaultBehavior" signed32,
        flag "honorsChangeAnnotations"]),
     .perhaps "publishDiagnostics" (record "PublishDiagnosticsClientCapabilities"
       [flag "relatedInformation", tagSupport, flag "versionSupport", flag "codeDescriptionSupport",
        flag "dataSupport"]),
     .perhaps "foldingRange" foldingFeature,
     .perhaps "selectionRange" (record "SelectionRangeClientCapabilities" [dynamic]),
     .perhaps "linkedEditingRange" simpleFeature, .perhaps "callHierarchy" simpleFeature,
     .perhaps "semanticTokens" tokenFeature, .perhaps "moniker" simpleFeature,
     .perhaps "typeHierarchy" simpleFeature, .perhaps "inlineValue" simpleFeature,
     .perhaps "inlayHint" (record "InlayHintClientCapabilities"
       [dynamic, .perhaps "resolveSupport" (resolving "InlayHintResolveClientCapabilities")]),
     .perhaps "diagnostic" (record "DiagnosticClientCapabilities" [dynamic, flag "relatedDocumentSupport"])]

/-! ### Windows and the rest -/

/-- Features of windows. -/
def windowFeatures : Shape :=
  record "WindowClientCapabilities"
    [flag "workDoneProgress",
     .perhaps "showMessage" (record "ShowMessageRequestClientCapabilities"
       [.perhaps "messageActionItem"
         (record "MessageActionItemCapabilities" [flag "additionalPropertiesSupport"])]),
     .perhaps "showDocument" (record "ShowDocumentClientCapabilities" [.needed "support" bool])]

/-- Features of no one place. -/
def generalFeatures : Shape :=
  record "GeneralClientCapabilities"
    [.perhaps "regularExpressions"
       (record "RegularExpressionsClientCapabilities" [.needed "engine" text, note "version"]),
     .perhaps "markdown" (record "MarkdownClientCapabilities"
       [.needed "parser" text, note "version", .perhaps "allowedTags" (list text)]),
     .perhaps "staleRequestSupport" (record "StaleRequestSupportClientCapabilities"
       [.needed "cancel" bool, .needed "retryOnContentModified" (list text)]),
     .perhaps "positionEncodings" (list text)]

/-- What a client can do. -/
def capabilities : Shape :=
  record "ClientCapabilities"
    [.perhaps "workspace" workspaceFeatures, .perhaps "textDocument" documentFeatures,
     .perhaps "window" windowFeatures, .perhaps "general" generalFeatures, extra "experimental"]

end PlaybookServer.Server.Protocol

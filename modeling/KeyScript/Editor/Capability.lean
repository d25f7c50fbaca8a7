import KeyScript.Editor.Parameter

/-! What an editor says about itself when the conversation begins. -/
namespace KeyScript.Editor

open Shape

namespace Capability

/-- Things that the editor can do or cannot. -/
def flags (names : List String) : List Field := names.map (maybe · .flag)

def dynamic : Shape := .record "DynamicRegistrationClientCapabilities" (flags ["dynamicRegistration"])

def refresh (name : String) : Shape := .record name (flags ["refreshSupport"])

def properties (name : String) : Shape := .record name [needed "properties" (.list .text)]

/-- Tags that the editor knows. -/
def tags : Field := ("tagSupport", .spare, .supported .int32)

def markups : Shape := .list (.word ["plaintext", "markdown"])

def symbolKinds : Shape := .record "SymbolKindCapability" [maybe "valueSet" (.list .int32)]

def workspace : Shape :=
  .record "WorkspaceClientCapabilities" [
    maybe "applyEdit" .flag,
    maybe "workspaceEdit" (.record "WorkspaceEditClientCapabilities" [
      maybe "documentChanges" .flag,
      maybe "resourceOperations" (.list (.word ["create", "rename", "delete"])),
      maybe "failureHandling" (.word ["abort", "transactional", "textOnlyTransactional", "undo"]),
      maybe "normalizesLineEndings" .flag,
      maybe "changeAnnotationSupport" (.record "ChangeAnnotationWorkspaceEditClientCapabilities"
        (flags ["groupsOnLabel"]))]),
    maybe "didChangeConfiguration" dynamic,
    maybe "didChangeWatchedFiles" (.record "DidChangeWatchedFilesClientCapabilities"
      (flags ["dynamicRegistration", "relativePatternSupport"])),
    maybe "symbol" (.record "WorkspaceSymbolClientCapabilities" [
      maybe "dynamicRegistration" .flag, maybe "symbolKind" symbolKinds, tags,
      maybe "resolveSupport" (properties "WorkspaceSymbolResolveSupportCapability")]),
    maybe "executeCommand" dynamic,
    maybe "workspaceFolders" .flag,
    maybe "configuration" .flag,
    maybe "semanticTokens" (refresh "SemanticTokensWorkspaceClientCapabilities"),
    maybe "codeLens" (refresh "CodeLensWorkspaceClientCapabilities"),
    maybe "fileOperations" (.record "WorkspaceFileOperationsClientCapabilities"
      (flags ["dynamicRegistration", "didCreate", "willCreate", "didRename", "willRename",
        "didDelete", "willDelete"])),
    maybe "inlineValue" (refresh "InlineValueWorkspaceClientCapabilities"),
    maybe "inlayHint" (refresh "InlayHintWorkspaceClientCapabilities"),
    maybe "diagnostic" (refresh "DiagnosticWorkspaceClientCapabilities")]

def completion : Shape :=
  .record "CompletionClientCapabilities" [
    maybe "dynamicRegistration" .flag,
    maybe "completionItem" (.record "CompletionItemCapability" [
      maybe "snippetSupport" .flag,
      maybe "commitCharactersSupport" .flag,
      maybe "documentationFormat" markups,
      maybe "deprecatedSupport" .flag,
      maybe "preselectSupport" .flag,
      tags,
      maybe "insertReplaceSupport" .flag,
      maybe "resolveSupport" (properties "CompletionItemCapabilityResolveSupport"),
      maybe "insertTextModeSupport" (.record "InsertTextModeSupport"
        [needed "valueSet" (.list .int32)]),
      maybe "labelDetailsSupport" .flag]),
    maybe "completionItemKind" (.record "CompletionItemKindCapability"
      [maybe "valueSet" (.list .int32)]),
    maybe "contextSupport" .flag,
    maybe "insertTextMode" .int32,
    maybe "completionList" (.record "CompletionListCapability"
      [maybe "itemDefaults" (.list .text)])]

def signatureHelp : Shape :=
  .record "SignatureHelpClientCapabilities" [
    maybe "dynamicRegistration" .flag,
    maybe "signatureInformation" (.record "SignatureInformationSettings" [
      maybe "documentationFormat" markups,
      maybe "parameterInformation" (.record "ParameterInformationSettings"
        (flags ["labelOffsetSupport"])),
      maybe "activeParameterSupport" .flag]),
    maybe "contextSupport" .flag]

def jump : Shape := .record "GotoCapability" (flags ["dynamicRegistration", "linkSupport"])

def action : Shape :=
  .record "CodeActionClientCapabilities" [
    maybe "dynamicRegistration" .flag,
    maybe "codeActionLiteralSupport" (.record "CodeActionLiteralSupport"
      [needed "codeActionKind" (.record "CodeActionKindLiteralSupport"
        [needed "valueSet" (.list .text)])]),
    maybe "isPreferredSupport" .flag,
    maybe "disabledSupport" .flag,
    maybe "dataSupport" .flag,
    maybe "resolveSupport" (properties "CodeActionCapabilityResolveSupport"),
    maybe "honorsChangeAnnotations" .flag]

def folding : Shape :=
  .record "FoldingRangeClientCapabilities" [
    maybe "dynamicRegistration" .flag,
    maybe "rangeLimit" .word32,
    maybe "lineFoldingOnly" .flag,
    maybe "foldingRangeKind" (.record "FoldingRangeKindCapability"
      [maybe "valueSet" (.list (.word ["comment", "imports", "region"]))]),
    maybe "foldingRange" (.record "FoldingRangeCapability" (flags ["collapsedText"]))]

def semanticTokens : Shape :=
  .record "SemanticTokensClientCapabilities" [
    maybe "dynamicRegistration" .flag,
    needed "requests" (.record "SemanticTokensClientCapabilitiesRequests" [
      maybe "range" .flag,
      maybe "full" (.either "SemanticTokensFullOptions"
        [.flag, .merged "SemanticTokensFullOptions" (flags ["delta"]) [] none])]),
    needed "tokenTypes" (.list .text),
    needed "tokenModifiers" (.list .text),
    needed "formats" (.list .text),
    maybe "overlappingTokenSupport" .flag,
    maybe "multilineTokenSupport" .flag,
    maybe "serverCancelSupport" .flag,
    maybe "augmentsSyntaxTokens" .flag]

def textDocument : Shape :=
  .record "TextDocumentClientCapabilities" [
    maybe "synchronization" (.record "TextDocumentSyncClientCapabilities"
      (flags ["dynamicRegistration", "willSave", "willSaveWaitUntil", "didSave"])),
    maybe "completion" completion,
    maybe "hover" (.record "HoverClientCapabilities"
      [maybe "dynamicRegistration" .flag, maybe "contentFormat" markups]),
    maybe "signatureHelp" signatureHelp,
    maybe "references" dynamic,
    maybe "documentHighlight" dynamic,
    maybe "documentSymbol" (.record "DocumentSymbolClientCapabilities" [
      maybe "dynamicRegistration" .flag, maybe "symbolKind" symbolKinds,
      maybe "hierarchicalDocumentSymbolSupport" .flag, tags]),
    maybe "formatting" dynamic,
    maybe "rangeFormatting" dynamic,
    maybe "onTypeFormatting" dynamic,
    maybe "declaration" jump,
    maybe "definition" jump,
    maybe "typeDefinition" jump,
    maybe "implementation" jump,
    maybe "codeAction" action,
    maybe "codeLens" dynamic,
    maybe "documentLink" (.record "DocumentLinkClientCapabilities"
      (flags ["dynamicRegistration", "tooltipSupport"])),
    maybe "colorProvider" dynamic,
    maybe "rename" (.record "RenameClientCapabilities" [
      maybe "dynamicRegistration" .flag, maybe "prepareSupport" .flag,
      maybe "prepareSupportDefaultBehavior" .int32, maybe "honorsChangeAnnotations" .flag]),
    maybe "publishDiagnostics" (.record "PublishDiagnosticsClientCapabilities" [
      maybe "relatedInformation" .flag, tags, maybe "versionSupport" .flag,
      maybe "codeDescriptionSupport" .flag, maybe "dataSupport" .flag]),
    maybe "foldingRange" folding,
    maybe "selectionRange" (.record "SelectionRangeClientCapabilities"
      (flags ["dynamicRegistration"])),
    maybe "linkedEditingRange" dynamic,
    maybe "callHierarchy" dynamic,
    maybe "semanticTokens" semanticTokens,
    maybe "moniker" dynamic,
    maybe "typeHierarchy" dynamic,
    maybe "inlineValue" dynamic,
    maybe "inlayHint" (.record "InlayHintClientCapabilities" [
      maybe "dynamicRegistration" .flag,
      maybe "resolveSupport" (properties "InlayHintResolveClientCapabilities")]),
    maybe "diagnostic" (.record "DiagnosticClientCapabilities"
      (flags ["dynamicRegistration", "relatedDocumentSupport"]))]

def window : Shape :=
  .record "WindowClientCapabilities" [
    maybe "workDoneProgress" .flag,
    maybe "showMessage" (.record "ShowMessageRequestClientCapabilities"
      [maybe "messageActionItem" (.record "MessageActionItemCapabilities"
        (flags ["additionalPropertiesSupport"]))]),
    maybe "showDocument" (.record "ShowDocumentClientCapabilities" [needed "support" .flag])]

def general : Shape :=
  .record "GeneralClientCapabilities" [
    maybe "regularExpressions" (.record "RegularExpressionsClientCapabilities"
      [needed "engine" .text, maybe "version" .text]),
    maybe "markdown" (.record "MarkdownClientCapabilities"
      [needed "parser" .text, maybe "version" .text, maybe "allowedTags" (.list .text)]),
    maybe "staleRequestSupport" (.record "StaleRequestSupportClientCapabilities"
      [needed "cancel" .flag, needed "retryOnContentModified" (.list .text)]),
    maybe "positionEncodings" (.list .text)]

def all : Shape :=
  .record "ClientCapabilities" [
    maybe "workspace" workspace, maybe "textDocument" textDocument, maybe "window" window,
    maybe "general" general, maybe "experimental" .any]

end Capability

namespace Parameter

/-- The first message of an editor. -/
def handshake : Shape :=
  .record "InitializeParams" [
    maybe "processId" .word32,
    maybe "rootPath" .text,
    ("rootUri", .spare, .uri),
    maybe "initializationOptions" .any,
    needed "capabilities" Capability.all,
    ("trace", .spare, .word ["off", "messages", "verbose"]),
    maybe "workspaceFolders" (.list folder),
    maybe "clientInfo" (.record "ClientInfo" [needed "name" .text, maybe "version" .text]),
    maybe "locale" .text]

end Parameter

end KeyScript.Editor

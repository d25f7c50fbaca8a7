import KeyScript.Editor.Capability

/-! The methods of the protocol: what a message asks for, by name. -/
namespace KeyScript.Editor

inductive Method where
  | handshake
  | initialized
  | shutdown
  | exit
  | opened
  | edited
  | closed
  | complete
  | resolve
  | execute
  /-- A request is not wanted any more. -/
  | cancel
  /-- A request of the protocol that this server does not serve. -/
  | otherRequest (params : Shape)
  /-- A notice of the protocol that this server does not heed. -/
  | otherNotice (params : Shape)
  | unknown

namespace Method

open Parameter

def otherRequests : List (String × Shape) := [
  ("textDocument/willSaveWaitUntil", saving),
  ("textDocument/declaration", definition),
  ("textDocument/definition", definition),
  ("textDocument/typeDefinition", definition),
  ("textDocument/implementation", definition),
  ("textDocument/references", references),
  ("textDocument/prepareCallHierarchy", placed "CallHierarchyPrepareParams" [progress]),
  ("callHierarchy/incomingCalls", callsOf "CallHierarchyIncomingCallsParams"),
  ("callHierarchy/outgoingCalls", callsOf "CallHierarchyOutgoingCallsParams"),
  ("textDocument/prepareTypeHierarchy", placed "TypeHierarchyPrepareParams" [progress]),
  ("typeHierarchy/supertypes", typesOf "TypeHierarchySupertypesParams"),
  ("typeHierarchy/subtypes", typesOf "TypeHierarchySubtypesParams"),
  ("textDocument/documentHighlight", placed "DocumentHighlightParams" [progress, portions]),
  ("textDocument/documentLink", documented "DocumentLinkParams" []),
  ("documentLink/resolve", link),
  ("textDocument/hover", placed "HoverParams" [progress]),
  ("textDocument/codeLens", documented "CodeLensParams" []),
  ("codeLens/resolve", lens),
  ("textDocument/foldingRange", documented "FoldingRangeParams" []),
  ("textDocument/selectionRange",
    documented "SelectionRangeParams" [Shape.needed "positions" (.list position)]),
  ("textDocument/documentSymbol", documented "DocumentSymbolParams" []),
  ("textDocument/semanticTokens/full", documented "SemanticTokensParams" []),
  ("textDocument/semanticTokens/full/delta",
    documented "SemanticTokensDeltaParams" [Shape.needed "previousResultId" .text]),
  ("textDocument/semanticTokens/range",
    documented "SemanticTokensRangeParams" [Shape.needed "range" range]),
  ("textDocument/inlineValue", inlineValue),
  ("textDocument/inlayHint", hints),
  ("inlayHint/resolve", hint),
  ("textDocument/moniker", placed "MonikerParams" [progress, portions]),
  ("textDocument/diagnostic", documentDiagnostics),
  ("workspace/diagnostic", workspaceDiagnostics),
  ("textDocument/signatureHelp", signatureHelp),
  ("textDocument/codeAction", actions),
  ("codeAction/resolve", action),
  ("textDocument/documentColor", documented "DocumentColorParams" []),
  ("textDocument/colorPresentation", colourPresentation),
  ("textDocument/formatting", formatDocument),
  ("textDocument/rangeFormatting", formatRange),
  ("textDocument/onTypeFormatting", formatTyped),
  ("textDocument/rename", rename),
  ("textDocument/prepareRename", .record "TextDocumentPositionParams" place),
  ("textDocument/linkedEditingRange", placed "LinkedEditingRangeParams" [progress]),
  ("workspace/symbol", symbols),
  ("workspaceSymbol/resolve", workspaceSymbol),
  ("workspace/willCreateFiles", created),
  ("workspace/willRenameFiles", renamed),
  ("workspace/willDeleteFiles", deleted)]

def otherNotices : List (String × Shape) := [
  ("textDocument/willSave", saving),
  ("textDocument/didSave", saved),
  ("workspace/didChangeWorkspaceFolders", folders),
  ("workspace/didChangeConfiguration", configuration),
  ("workspace/didChangeWatchedFiles", watched),
  ("workspace/didCreateFiles", created),
  ("workspace/didRenameFiles", renamed),
  ("workspace/didDeleteFiles", deleted)]

/-- Methods outside of those that the server serves. -/
def otherOfName (name : String) : Method :=
  match otherRequests.lookup name with
  | some params => .otherRequest params
  | none =>
    match otherNotices.lookup name with
    | some params => .otherNotice params
    | none => .unknown

def ofName (name : String) : Method :=
  match name with
  | "initialize" => .handshake
  | "initialized" => .initialized
  | "shutdown" => .shutdown
  | "exit" => .exit
  | "textDocument/didOpen" => .opened
  | "textDocument/didChange" => .edited
  | "textDocument/didClose" => .closed
  | "textDocument/completion" => .complete
  | "completionItem/resolve" => .resolve
  | "workspace/executeCommand" => .execute
  | "$/cancelRequest" => .cancel
  | name => otherOfName name

/-- A method whose messages are not answered. -/
def isNotice : Method → Bool
  | .initialized | .opened | .edited | .closed | .exit | .cancel | .otherNotice _ => true
  | _ => false

end Method

end KeyScript.Editor

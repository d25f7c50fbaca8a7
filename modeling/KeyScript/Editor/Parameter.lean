import KeyScript.Editor.Shape

/-! Shapes of the parameters of messages. -/
namespace KeyScript.Editor

namespace Shape

abbrev Field := String × Need × Shape

def needed (name : String) (shape : Shape) : Field := (name, .required, shape)

def maybe (name : String) (shape : Shape) : Field := (name, .optional, shape)

end Shape

open Shape

namespace Parameter

/-! Parts of several messages. -/

def position : Shape := .record "Position" [needed "line" .word32, needed "character" .word32]

def range : Shape := .record "Range" [needed "start" position, needed "end" position]

def location : Shape := .record "Location" [needed "uri" .uri, needed "range" range]

def identifier : Shape := .record "TextDocumentIdentifier" [needed "uri" .uri]

def document : List Field := [needed "textDocument" identifier]

def place : List Field := [needed "textDocument" identifier, needed "position" position]

def numberOrText : Shape := .either "NumberOrString" [.int32, .text]

/-- By this token the editor wants to hear of progress. -/
def progress : List Field := [maybe "workDoneToken" numberOrText]

/-- By this token the editor wants to have a result in parts. -/
def portions : List Field := [maybe "partialResultToken" numberOrText]

def command : Shape :=
  .record "Command" [needed "title" .text, needed "command" .text, maybe "arguments" (.list .any)]

def markup : Shape :=
  .record "MarkupContent" [needed "kind" (.word ["plaintext", "markdown"]), needed "value" .text]

def documentation : Shape := .either "Documentation" [.text, markup]

def textEdit : Shape := .record "TextEdit" [needed "range" range, needed "newText" .text]

def folder : Shape := .record "WorkspaceFolder" [needed "uri" .uri, needed "name" .text]

def diagnostic : Shape :=
  .record "Diagnostic" [
    needed "range" range, maybe "severity" .int32, maybe "code" numberOrText,
    maybe "codeDescription" (.record "CodeDescription" [needed "href" .uri]),
    maybe "source" .text, needed "message" .text,
    maybe "relatedInformation" (.list (.record "DiagnosticRelatedInformation"
      [needed "location" location, needed "message" .text])),
    maybe "tags" (.list .int32), maybe "data" .any]

/-! Edits of several documents. -/

def annotatedEdit : Shape :=
  .merged "AnnotatedTextEdit" [needed "annotationId" .text]
    [[needed "range" range, needed "newText" .text]] none

def documentEdit : Shape :=
  .record "TextDocumentEdit" [
    needed "textDocument" (.record "OptionalVersionedTextDocumentIdentifier"
      [needed "uri" .uri, maybe "version" .int32]),
    needed "edits" (.list (.either "OneOf" [textEdit, annotatedEdit]))]

def replacing : List Field := [maybe "overwrite" .flag, maybe "ignoreIfExists" .flag]

/-- Files that are made, renamed or removed. -/
def fileOperation : Shape :=
  .tagged "kind" [
    ("create", .record "CreateFile" [needed "uri" .uri,
      maybe "options" (.record "CreateFileOptions" replacing), maybe "annotationId" .text]),
    ("rename", .record "RenameFile" [needed "oldUri" .uri, needed "newUri" .uri,
      maybe "options" (.record "RenameFileOptions" replacing), maybe "annotationId" .text]),
    ("delete", .record "DeleteFile" [needed "uri" .uri,
      maybe "options" (.record "DeleteFileOptions"
        [maybe "recursive" .flag, maybe "ignoreIfNotExists" .flag, maybe "annotationId" .text])])]

def workspaceEdit : Shape :=
  .record "WorkspaceEdit" [
    ("changes", .spare, .uriTable (.list textEdit)),
    maybe "documentChanges" (.either "DocumentChanges" [.list documentEdit,
      .list (.either "DocumentChangeOperation" [fileOperation, documentEdit])]),
    maybe "changeAnnotations" (.table (.record "ChangeAnnotation" [needed "label" .text,
      maybe "needsConfirmation" .flag, maybe "description" .text]))]

/-! Documents. -/

def opened : Shape :=
  .record "DidOpenTextDocumentParams" [needed "textDocument" (.record "TextDocumentItem"
    [needed "uri" .uri, needed "languageId" .text, needed "version" .int32, needed "text" .text])]

def edited : Shape :=
  .record "DidChangeTextDocumentParams" [
    needed "textDocument" (.record "VersionedTextDocumentIdentifier"
      [needed "uri" .uri, needed "version" .int32]),
    needed "contentChanges" (.list (.record "TextDocumentContentChangeEvent"
      [maybe "range" range, maybe "rangeLength" .word32, needed "text" .text]))]

def closed : Shape := .record "DidCloseTextDocumentParams" document

def saved : Shape := .record "DidSaveTextDocumentParams" (document ++ [maybe "text" .text])

def saving : Shape := .record "WillSaveTextDocumentParams" (document ++ [needed "reason" .int32])

/-! Completion and commands. -/

def completion : Shape :=
  .merged "CompletionParams"
    [maybe "context" (.record "CompletionContext"
      [needed "triggerKind" .int32, maybe "triggerCharacter" .text])]
    [place, progress, portions] none

/-- A completion item with the fields that the protocol knows. -/
def item : Shape :=
  .record "CompletionItem" [
    needed "label" .text,
    maybe "labelDetails" (.record "CompletionItemLabelDetails"
      [maybe "detail" .text, maybe "description" .text]),
    maybe "kind" .int32, maybe "detail" .text, maybe "documentation" documentation,
    maybe "deprecated" .flag, maybe "preselect" .flag, maybe "sortText" .text,
    maybe "filterText" .text, maybe "insertText" .text, maybe "insertTextFormat" .int32,
    maybe "insertTextMode" .int32,
    maybe "textEdit" (.either "CompletionTextEdit" [textEdit, .record "InsertReplaceEdit"
      [needed "newText" .text, needed "insert" range, needed "replace" range]]),
    maybe "additionalTextEdits" (.list textEdit), maybe "command" command,
    maybe "commitCharacters" (.list .text), maybe "data" .any, maybe "tags" (.list .int32)]

def execution : Shape :=
  .merged "ExecuteCommandParams"
    [needed "command" .text, ("arguments", .defaulted, .list .any)] [progress] none

/-! Requests about a document or a place in it. -/

def placed (name : String) (shared : List (List Field)) : Shape :=
  .merged name [] (place :: shared) none

def documented (name : String) (own : List Field) : Shape :=
  .merged name (document ++ own) [progress, portions] none

def definition : Shape := placed "GotoDefinitionParams" [progress, portions]

def references : Shape :=
  .merged "ReferenceParams"
    [needed "context" (.record "ReferenceContext" [needed "includeDeclaration" .flag])]
    [place, progress, portions] none

/-- A symbol in a hierarchy of calls or types. -/
def symbol (name : String) (tags : Shape) : Shape :=
  .record name [needed "name" .text, needed "kind" .int32, maybe "tags" tags, maybe "detail" .text,
    needed "uri" .uri, needed "range" range, needed "selectionRange" range, maybe "data" .any]

def callsOf (name : String) : Shape :=
  .merged name [needed "item" (symbol "CallHierarchyItem" (.list .int32))] [progress, portions] none

def typesOf (name : String) : Shape :=
  .merged name [needed "item" (symbol "TypeHierarchyItem" .int32)] [progress, portions] none

def link : Shape :=
  .record "DocumentLink" [needed "range" range, maybe "target" .uri, maybe "tooltip" .text,
    maybe "data" .any]

def lens : Shape :=
  .record "CodeLens" [needed "range" range, maybe "command" command, maybe "data" .any]

def inlineValue : Shape :=
  .merged "InlineValueParams" [needed "textDocument" identifier, needed "range" range,
    needed "context" (.record "InlineValueContext"
      [needed "frameId" .int32, needed "stoppedLocation" range])] [progress] none

def hints : Shape :=
  .merged "InlayHintParams" [needed "textDocument" identifier, needed "range" range] [progress] none

def hint : Shape :=
  .record "InlayHint" [
    needed "position" position,
    needed "label" (.either "InlayHintLabel" [.text, .list (.record "InlayHintLabelPart"
      [needed "value" .text, maybe "tooltip" (.either "InlayHintLabelPartTooltip" [.text, markup]),
        maybe "location" location, maybe "command" command])]),
    maybe "kind" .int32, maybe "textEdits" (.list textEdit),
    maybe "tooltip" (.either "InlayHintTooltip" [.text, markup]),
    maybe "paddingLeft" .flag, maybe "paddingRight" .flag, maybe "data" .any]

def signature : Shape :=
  .record "SignatureInformation" [
    needed "label" .text, maybe "documentation" documentation,
    maybe "parameters" (.list (.record "ParameterInformation"
      [needed "label" (.either "ParameterLabel" [.text, .pair .word32]),
        maybe "documentation" documentation])),
    maybe "activeParameter" .word32]

def signatureHelp : Shape :=
  .merged "SignatureHelpParams"
    [maybe "context" (.record "SignatureHelpContext" [
      needed "triggerKind" .int32, maybe "triggerCharacter" .text, needed "isRetrigger" .flag,
      maybe "activeSignatureHelp" (.record "SignatureHelp" [needed "signatures" (.list signature),
        maybe "activeSignature" .word32, maybe "activeParameter" .word32])])]
    [place, progress] none

def actions : Shape :=
  documented "CodeActionParams" [
    needed "range" range,
    needed "context" (.record "CodeActionContext" [needed "diagnostics" (.list diagnostic),
      maybe "only" (.list .text), maybe "triggerKind" .int32])]

def action : Shape :=
  .record "CodeAction" [
    needed "title" .text, maybe "kind" .text, maybe "diagnostics" (.list diagnostic),
    maybe "edit" workspaceEdit, maybe "command" command, maybe "isPreferred" .flag,
    maybe "disabled" (.record "CodeActionDisabled" [needed "reason" .text]), maybe "data" .any]

def colourPresentation : Shape :=
  documented "ColorPresentationParams" [
    needed "color" (.record "Color" [needed "red" .number, needed "green" .number,
      needed "blue" .number, needed "alpha" .number]),
    needed "range" range]

/-- How a document is to be formatted; an editor may add settings of its own. -/
def formatting : Shape :=
  .merged "FormattingOptions"
    [needed "tabSize" .word32, needed "insertSpaces" .flag, maybe "trimTrailingWhitespace" .flag,
      maybe "insertFinalNewline" .flag, maybe "trimFinalNewlines" .flag]
    [] (some (.either "FormattingProperty" [.flag, .int32, .text]))

def formatDocument : Shape :=
  .merged "DocumentFormattingParams" (document ++ [needed "options" formatting]) [progress] none

def formatRange : Shape :=
  .merged "DocumentRangeFormattingParams"
    (document ++ [needed "range" range, needed "options" formatting]) [progress] none

def formatTyped : Shape :=
  .merged "DocumentOnTypeFormattingParams" [needed "ch" .text, needed "options" formatting] [place] none

def rename : Shape :=
  .merged "RenameParams" [needed "newName" .text] [place, progress] none

/-! Requests and notices about the workspace. -/

def documentDiagnostics : Shape :=
  documented "DocumentDiagnosticParams" [maybe "identifier" .text, maybe "previousResultId" .text]

def workspaceDiagnostics : Shape :=
  .merged "WorkspaceDiagnosticParams" [
    maybe "identifier" .text,
    needed "previousResultIds" (.list (.record "PreviousResultId"
      [needed "uri" .uri, needed "value" .text]))] [progress, portions] none

def symbols : Shape :=
  .merged "WorkspaceSymbolParams" [needed "query" .text] [portions, progress] none

def workspaceSymbol : Shape :=
  .record "WorkspaceSymbol" [
    needed "name" .text, needed "kind" .int32, maybe "tags" (.list .int32),
    maybe "containerName" .text,
    needed "location" (.either "OneOf" [location, .record "WorkspaceLocation" [needed "uri" .uri]]),
    maybe "data" .any]

def created : Shape :=
  .record "CreateFilesParams" [needed "files" (.list (.record "FileCreate" [needed "uri" .text]))]

def renamed : Shape :=
  .record "RenameFilesParams" [needed "files" (.list (.record "FileRename"
    [needed "oldUri" .text, needed "newUri" .text]))]

def deleted : Shape :=
  .record "DeleteFilesParams" [needed "files" (.list (.record "FileDelete" [needed "uri" .text]))]

def configuration : Shape := .record "DidChangeConfigurationParams" [needed "settings" .any]

def folders : Shape :=
  .record "DidChangeWorkspaceFoldersParams" [needed "event" (.record "WorkspaceFoldersChangeEvent"
    [needed "added" (.list folder), needed "removed" (.list folder)])]

def watched : Shape :=
  .record "DidChangeWatchedFilesParams" [needed "changes" (.list (.record "FileEvent"
    [needed "uri" .uri, needed "type" .int32]))]

def cancellation : Shape := .record "CancelParams" [needed "id" numberOrText]

def begun : Shape := .record "InitializedParams" []

end Parameter

end KeyScript.Editor

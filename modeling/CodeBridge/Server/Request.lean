import CodeBridge.Server.Shape

/-! # Requests of the protocol

The requests that the protocol knows, with the shapes of their parameters. A server that does not
answer one of them still looks at its parameters.
-/

namespace CodeBridge

namespace Shape

/-! ## Parts of parameters -/

def position : Shape := .record "Position" [("line", .uint32), ("character", .uint32)]

def range : Shape := .record "Range" [("start", position), ("end", position)]

def document : Shape := .record "TextDocumentIdentifier" [("uri", .uri)]

/-- A place in a document. -/
def placeFields : List (String × Shape) := [("textDocument", document), ("position", position)]

/-- A name that the client gives to a request, to be told about its progress. -/
def token : Shape := .oneOf "NumberOrString" [.int32, .text]

def progressFields : List (String × Shape) := [("workDoneToken", .optional token)]

def partialFields : List (String × Shape) := [("partialResultToken", .optional token)]

/-- Parameters of a request about a place. -/
def atPlace (name : String) (fields : List (String × Shape)) : Shape :=
  .joined name fields [placeFields, progressFields, partialFields]

/-- Parameters of a request about a document. -/
def ofDocument (name : String) (fields : List (String × Shape)) : Shape :=
  .joined name (("textDocument", document) :: fields) [progressFields, partialFields]

/-- Parameters of a request about neither. -/
def withTokens (name : String) (fields : List (String × Shape)) : Shape :=
  .joined name fields [progressFields, partialFields]

def hierarchyItem (name : String) : Shape :=
  .record name [
    ("name", .text), ("kind", .int32), ("tags", .optional .any), ("detail", .optional .text),
    ("uri", .uri), ("range", range), ("selectionRange", range), ("data", .optional .any)]

def command : Shape :=
  .record "Command" [
    ("title", .text), ("command", .text), ("arguments", .optional (.list .any))]

def diagnostic : Shape :=
  .record "Diagnostic" [
    ("range", range), ("severity", .optional .int32), ("code", .optional token),
    ("codeDescription", .optional .any), ("source", .optional .text), ("message", .text),
    ("relatedInformation", .optional .any), ("tags", .optional .any), ("data", .optional .any)]

def formattingOptions : Shape :=
  .joined "FormattingOptions" [
    ("tabSize", .uint32), ("insertSpaces", .bool), ("trimTrailingWhitespace", .optional .bool),
    ("insertFinalNewline", .optional .bool), ("trimFinalNewlines", .optional .bool)] []

def color : Shape :=
  .record "Color" [("red", .float), ("green", .float), ("blue", .float), ("alpha", .float)]

/-- Files that are created, renamed or deleted. -/
def fileOperation (name item : String) (fields : List String) : Shape :=
  .record name [("files", .list (.record item (fields.map fun field => (field, .text))))]

end Shape

open Shape

/-- The requests that the protocol knows, except those that begin and end a conversation. -/
def requestShapes : List (String × Shape) := [
  ("textDocument/definition", atPlace "GotoDefinitionParams" []),
  ("textDocument/documentHighlight", atPlace "DocumentHighlightParams" []),
  ("textDocument/completion", atPlace "CompletionParams" [
    ("context", .optional (.record "CompletionContext" [
      ("triggerKind", .int32), ("triggerCharacter", .optional .text)]))]),
  ("textDocument/declaration", atPlace "GotoDefinitionParams" []),
  ("textDocument/typeDefinition", atPlace "GotoDefinitionParams" []),
  ("textDocument/implementation", atPlace "GotoDefinitionParams" []),
  ("textDocument/references", atPlace "ReferenceParams" [
    ("context", .record "ReferenceContext" [("includeDeclaration", .bool)])]),
  ("textDocument/prepareCallHierarchy",
    .joined "CallHierarchyPrepareParams" [] [placeFields, progressFields]),
  ("callHierarchy/incomingCalls", withTokens "CallHierarchyIncomingCallsParams" [
    ("item", hierarchyItem "CallHierarchyItem")]),
  ("callHierarchy/outgoingCalls", withTokens "CallHierarchyOutgoingCallsParams" [
    ("item", hierarchyItem "CallHierarchyItem")]),
  ("textDocument/prepareTypeHierarchy",
    .joined "TypeHierarchyPrepareParams" [] [placeFields, progressFields]),
  ("typeHierarchy/supertypes", withTokens "TypeHierarchySupertypesParams" [
    ("item", hierarchyItem "TypeHierarchyItem")]),
  ("typeHierarchy/subtypes", withTokens "TypeHierarchySubtypesParams" [
    ("item", hierarchyItem "TypeHierarchyItem")]),
  ("textDocument/documentLink", ofDocument "DocumentLinkParams" []),
  ("documentLink/resolve", .record "DocumentLink" [
    ("range", range), ("target", .optional .uri), ("tooltip", .optional .text),
    ("data", .optional .any)]),
  ("textDocument/hover", .joined "HoverParams" [] [placeFields, progressFields]),
  ("textDocument/codeLens", ofDocument "CodeLensParams" []),
  ("codeLens/resolve", .record "CodeLens" [
    ("range", range), ("command", .optional command), ("data", .optional .any)]),
  ("textDocument/foldingRange", ofDocument "FoldingRangeParams" []),
  ("textDocument/selectionRange", ofDocument "SelectionRangeParams" [
    ("positions", .list position)]),
  ("textDocument/documentSymbol", ofDocument "DocumentSymbolParams" []),
  ("textDocument/semanticTokens/full", ofDocument "SemanticTokensParams" []),
  ("textDocument/semanticTokens/full/delta", ofDocument "SemanticTokensDeltaParams" [
    ("previousResultId", .text)]),
  ("textDocument/semanticTokens/range", ofDocument "SemanticTokensRangeParams" [("range", range)]),
  ("textDocument/inlineValue", .joined "InlineValueParams" [
    ("textDocument", document), ("range", range),
    ("context", .record "InlineValueContext" [("frameId", .int32), ("stoppedLocation", range)])]
    [progressFields]),
  ("textDocument/inlayHint", .joined "InlayHintParams" [
    ("textDocument", document), ("range", range)] [progressFields]),
  ("inlayHint/resolve", .record "InlayHint" [
    ("position", position), ("label", .oneOf "InlayHintLabel" [.text, .list .any]),
    ("kind", .optional .int32), ("textEdits", .optional .any), ("tooltip", .optional .any),
    ("paddingLeft", .optional .bool), ("paddingRight", .optional .bool),
    ("data", .optional .any)]),
  ("textDocument/moniker", atPlace "MonikerParams" []),
  ("completionItem/resolve", .record "CompletionItem" [("label", .text)]),
  ("textDocument/diagnostic", ofDocument "DocumentDiagnosticParams" [
    ("identifier", .optional .text), ("previousResultId", .optional .text)]),
  ("workspace/diagnostic", withTokens "WorkspaceDiagnosticParams" [
    ("identifier", .optional .text),
    ("previousResultIds", .list (.record "PreviousResultId" [("uri", .uri), ("value", .text)]))]),
  ("textDocument/signatureHelp", .joined "SignatureHelpParams" [
    ("context", .optional .any)] [placeFields, progressFields]),
  ("textDocument/codeAction", ofDocument "CodeActionParams" [
    ("range", range),
    ("context", .record "CodeActionContext" [
      ("diagnostics", .list diagnostic), ("only", .optional (.list .text)),
      ("triggerKind", .optional .int32)])]),
  ("codeAction/resolve", .record "CodeAction" [("title", .text)]),
  ("textDocument/documentColor", ofDocument "DocumentColorParams" []),
  ("textDocument/colorPresentation", ofDocument "ColorPresentationParams" [
    ("color", color), ("range", range)]),
  ("textDocument/formatting", .joined "DocumentFormattingParams" [
    ("textDocument", document), ("options", formattingOptions)] [progressFields]),
  ("textDocument/rangeFormatting", .joined "DocumentRangeFormattingParams" [
    ("textDocument", document), ("range", range), ("options", formattingOptions)]
    [progressFields]),
  ("textDocument/onTypeFormatting", .joined "DocumentOnTypeFormattingParams" [
    ("ch", .text), ("options", formattingOptions)] [placeFields]),
  ("textDocument/rename", .joined "RenameParams" [("newName", .text)]
    [placeFields, progressFields]),
  ("textDocument/prepareRename", .record "TextDocumentPositionParams" placeFields),
  ("textDocument/linkedEditingRange",
    .joined "LinkedEditingRangeParams" [] [placeFields, progressFields]),
  ("workspace/symbol", .joined "WorkspaceSymbolParams" [("query", .text)]
    [partialFields, progressFields]),
  ("workspaceSymbol/resolve", .record "WorkspaceSymbol" [
    ("name", .text), ("kind", .int32), ("tags", .optional .any),
    ("containerName", .optional .text),
    ("location", .oneOf "OneOf" [
      .record "Location" [("uri", .uri), ("range", range)],
      .record "WorkspaceLocation" [("uri", .uri)]]),
    ("data", .optional .any)]),
  ("workspace/willCreateFiles", fileOperation "CreateFilesParams" "FileCreate" ["uri"]),
  ("workspace/willRenameFiles",
    fileOperation "RenameFilesParams" "FileRename" ["oldUri", "newUri"]),
  ("workspace/willDeleteFiles", fileOperation "DeleteFilesParams" "FileDelete" ["uri"]),
  ("workspace/executeCommand", .joined "ExecuteCommandParams" [
    ("command", .text), ("arguments", .defaulted (.list .any))] [progressFields]),
  ("textDocument/willSaveWaitUntil", .record "WillSaveTextDocumentParams" [
    ("textDocument", document), ("reason", .int32)]) ]

/-- What a client can do; only the outermost fields have to be right. -/
def clientCapabilities : Shape :=
  .record "ClientCapabilities" [
    ("workspace", .optional .any), ("textDocument", .optional .any),
    ("notebookDocument", .optional .any), ("window", .optional .any), ("general", .optional .any),
    ("experimental", .optional .any)]

/-- The parameters that begin a conversation. -/
def greetingShape : Shape :=
  .record "InitializeParams" [
    ("processId", .optional .uint32), ("rootPath", .optional .text), ("rootUri", .optional .uri),
    ("initializationOptions", .optional .any), ("capabilities", clientCapabilities),
    ("trace", .optional .any), ("workspaceFolders", .optional .any),
    ("clientInfo", .optional .any), ("locale", .optional .text)]

/-- The messages of the protocol that never want an answer. -/
def notificationMethods : List String :=
  ["initialized", "textDocument/didOpen", "textDocument/didChange", "textDocument/willSave",
    "textDocument/didSave", "textDocument/didClose", "workspace/didChangeConfiguration",
    "workspace/didChangeWorkspaceFolders", "workspace/didCreateFiles", "workspace/didRenameFiles",
    "workspace/didDeleteFiles", "workspace/didChangeWatchedFiles"]

end CodeBridge

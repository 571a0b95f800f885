import Contracts.Protocol.Document

/-!
The shapes of the params of requests.
-/

namespace Contracts.Shape

/-- How an editor wants to be told of the progress of a request. -/
def progress : List (String × Shape) := [("workDoneToken", .option token)]

/-- How an editor wants to be told of parts of a result. -/
def partialResult : List (String × Shape) := [("partialResultToken", .option token)]

/-- A place in a document. -/
def place : List (String × Shape) := [("textDocument", document), ("position", position)]

/-- Params with a document, behind which come the fields of their own. -/
def ofDocument (name : String) (fields : List (String × Shape)) : Shape :=
  .extended name (("textDocument", document) :: fields) [progress, partialResult]

/-- Params with a place in a document. -/
def ofPlace (name : String) : Shape := .extended name [] [place, progress, partialResult]

/-- Params with a place in a document, where the result comes in one. -/
def ofPlaceAtOnce (name : String) : Shape := .extended name [] [place, progress]

def hierarchyItem (name : String) (tags : Shape) : Shape :=
  .record name
    [("name", .text), ("kind", .int), ("tags", .option tags), ("detail", .option .text),
      ("uri", .uri), ("range", range), ("selectionRange", range), ("data", .option .any)]

/-- Params with an item of a hierarchy of calls or types. -/
def ofItem (name item : String) (tags : Shape) : Shape :=
  .extended name [("item", hierarchyItem item tags)] [progress, partialResult]

def callItem (name : String) : Shape := ofItem name "CallHierarchyItem" (.list .int)

def typeItem (name : String) : Shape := ofItem name "TypeHierarchyItem" .int

def documentLink : Shape :=
  .record "DocumentLink"
    [("range", range), ("target", .option .uri), ("tooltip", .option .text),
      ("data", .option .any)]

def codeLens : Shape :=
  .record "CodeLens" [("range", range), ("command", .option command), ("data", .option .any)]

def prose (name : String) : Shape := .option (.oneOf name [.text, markup])

def inlayHint : Shape :=
  let part : Shape :=
    .record "InlayHintLabelPart"
      [("value", .text), ("tooltip", prose "InlayHintLabelPartTooltip"),
        ("location", .option location), ("command", .option command)]
  .record "InlayHint"
    [("position", position), ("label", .oneOf "InlayHintLabel" [.text, .list part]),
      ("kind", .option .int), ("textEdits", .option (.list textEdit)),
      ("tooltip", prose "InlayHintTooltip"), ("paddingLeft", .option .bool),
      ("paddingRight", .option .bool), ("data", .option .any)]

def completionItem : Shape :=
  let replacing : Shape :=
    .record "InsertReplaceEdit" [("newText", .text), ("insert", range), ("replace", range)]
  .record "CompletionItem"
    [("label", .text),
      ("labelDetails", .option (.record "CompletionItemLabelDetails"
        [("detail", .option .text), ("description", .option .text)])),
      ("kind", .option .int), ("detail", .option .text), ("documentation", prose "Documentation"),
      ("deprecated", .option .bool), ("preselect", .option .bool), ("sortText", .option .text),
      ("filterText", .option .text), ("insertText", .option .text),
      ("insertTextFormat", .option .int), ("insertTextMode", .option .int),
      ("textEdit", .option (.oneOf "CompletionTextEdit" [textEdit, replacing])),
      ("additionalTextEdits", .option (.list textEdit)), ("command", .option command),
      ("commitCharacters", .option (.list .text)), ("data", .option .any),
      ("tags", .option (.list .int))]

def signatureHelp : Shape :=
  let parameter : Shape :=
    .record "ParameterInformation"
      [("label", .oneOf "ParameterLabel" [.text, .pair .word]),
        ("documentation", prose "Documentation")]
  let signature : Shape :=
    .record "SignatureInformation"
      [("label", .text), ("documentation", prose "Documentation"),
        ("parameters", .option (.list parameter)), ("activeParameter", .option .word)]
  .record "SignatureHelp"
    [("signatures", .list signature), ("activeSignature", .option .word),
      ("activeParameter", .option .word)]

def signatureContext : Shape :=
  .record "SignatureHelpContext"
    [("triggerKind", .int), ("triggerCharacter", .option .text), ("isRetrigger", .bool),
      ("activeSignatureHelp", .option signatureHelp)]

def formatting : Shape :=
  .openRecord "FormattingOptions"
    [("tabSize", .word), ("insertSpaces", .bool), ("trimTrailingWhitespace", .option .bool),
      ("insertFinalNewline", .option .bool), ("trimFinalNewlines", .option .bool)]
    (.oneOf "FormattingProperty" [.bool, .int, .text])

/-- Files that are to be created, renamed or deleted. The field `kind` tells which, by a word or by
its place in this order. -/
def fileChanges : List Shape :=
  let note : List (String × Shape) := [("annotationId", .option .text)]
  let options (names : List String) (more : List (String × Shape)) : String × Shape :=
    ("options", .option (.record "FileOptions"
      (names.map (fun name => (name, .option .bool)) ++ more)))
  let change (word : String) (place : Nat) (uris : List String) (more : List (String × Shape)) :
      Shape :=
    .record "ResourceOp"
      (("kind", .oneOf "ResourceOp" [.exactly (.text word), .exactly (.nat place)]) ::
        uris.map (fun name => (name, .uri)) ++ more)
  [change "create" 0 ["uri"] (options ["overwrite", "ignoreIfExists"] [] :: note),
    change "rename" 1 ["oldUri", "newUri"] (options ["overwrite", "ignoreIfExists"] [] :: note),
    change "delete" 2 ["uri"] [options ["recursive", "ignoreIfNotExists"] note]]

def workspaceChange : Shape :=
  let identifier : Shape :=
    .record "OptionalVersionedTextDocumentIdentifier" [("uri", .uri), ("version", .option .int)]
  let annotated : Shape :=
    .extended "AnnotatedTextEdit" [("annotationId", .text)]
      [[("range", range), ("newText", .text)]]
  let documentEdit : Shape :=
    .record "TextDocumentEdit"
      [("textDocument", identifier),
        ("edits", .list (.oneOf "OneOf" [textEdit, annotated]))]
  let annotation : Shape :=
    .record "ChangeAnnotation"
      [("label", .text), ("needsConfirmation", .option .bool), ("description", .option .text)]
  .record "WorkspaceEdit"
    [("changes", .usual (.option (.uriMap (.list textEdit)))),
      ("documentChanges", .option
        (.oneOf "DocumentChanges"
          [.list documentEdit,
            .list (.oneOf "DocumentChangeOperation" (fileChanges ++ [documentEdit]))])),
      ("changeAnnotations", .option (.map annotation))]

def codeAction : Shape :=
  .record "CodeAction"
    [("title", .text), ("kind", .option .text), ("diagnostics", .option (.list diagnostic)),
      ("edit", .option workspaceChange), ("command", .option command),
      ("isPreferred", .option .bool),
      ("disabled", .option (.record "CodeActionDisabled" [("reason", .text)])),
      ("data", .option .any)]

def codeActionContext : Shape :=
  .record "CodeActionContext"
    [("diagnostics", .list diagnostic), ("only", .option (.list .text)),
      ("triggerKind", .option .int)]

def workspaceSymbol : Shape :=
  .record "WorkspaceSymbol"
    [("name", .text), ("kind", .int), ("tags", .option (.list .int)),
      ("containerName", .option .text),
      ("location", .oneOf "OneOf" [location, .record "WorkspaceLocation" [("uri", .uri)]]),
      ("data", .option .any)]

/-- Files that an editor is about to create, rename or delete. -/
def files (name file : String) (fields : List String) : Shape :=
  .record name [("files", .list (.record file (fields.map fun field => (field, .text))))]

/-- The shapes of the params, by the methods of requests. -/
def requests : List (String × Shape) := [
  ("textDocument/willSaveWaitUntil",
    .record "WillSaveTextDocumentParams" [("textDocument", document), ("reason", .int)]),
  ("textDocument/declaration", ofPlace "GotoDefinitionParams"),
  ("textDocument/definition", ofPlace "GotoDefinitionParams"),
  ("textDocument/typeDefinition", ofPlace "GotoDefinitionParams"),
  ("textDocument/implementation", ofPlace "GotoDefinitionParams"),
  ("textDocument/references",
    .extended "ReferenceParams"
      [("context", .record "ReferenceContext" [("includeDeclaration", .bool)])]
      [place, progress, partialResult]),
  ("textDocument/prepareCallHierarchy", ofPlaceAtOnce "CallHierarchyPrepareParams"),
  ("callHierarchy/incomingCalls", callItem "CallHierarchyIncomingCallsParams"),
  ("callHierarchy/outgoingCalls", callItem "CallHierarchyOutgoingCallsParams"),
  ("textDocument/prepareTypeHierarchy", ofPlaceAtOnce "TypeHierarchyPrepareParams"),
  ("typeHierarchy/supertypes", typeItem "TypeHierarchySupertypesParams"),
  ("typeHierarchy/subtypes", typeItem "TypeHierarchySubtypesParams"),
  ("textDocument/documentHighlight", ofPlace "DocumentHighlightParams"),
  ("textDocument/documentLink", ofDocument "DocumentLinkParams" []),
  ("documentLink/resolve", documentLink),
  ("textDocument/hover", ofPlaceAtOnce "HoverParams"),
  ("textDocument/codeLens", ofDocument "CodeLensParams" []),
  ("codeLens/resolve", codeLens),
  ("textDocument/foldingRange", ofDocument "FoldingRangeParams" []),
  ("textDocument/selectionRange",
    ofDocument "SelectionRangeParams" [("positions", .list position)]),
  ("textDocument/documentSymbol", ofDocument "DocumentSymbolParams" []),
  ("textDocument/semanticTokens/full", ofDocument "SemanticTokensParams" []),
  ("textDocument/semanticTokens/full/delta",
    ofDocument "SemanticTokensDeltaParams" [("previousResultId", .text)]),
  ("textDocument/semanticTokens/range",
    ofDocument "SemanticTokensRangeParams" [("range", range)]),
  ("textDocument/inlineValue",
    .extended "InlineValueParams"
      [("textDocument", document), ("range", range),
        ("context", .record "InlineValueContext"
          [("frameId", .int), ("stoppedLocation", range)])]
      [progress]),
  ("textDocument/inlayHint",
    .extended "InlayHintParams" [("textDocument", document), ("range", range)] [progress]),
  ("inlayHint/resolve", inlayHint),
  ("textDocument/moniker", ofPlace "MonikerParams"),
  ("textDocument/completion",
    .extended "CompletionParams"
      [("context", .option (.record "CompletionContext"
        [("triggerKind", .int), ("triggerCharacter", .option .text)]))]
      [place, progress, partialResult]),
  ("completionItem/resolve", completionItem),
  ("textDocument/diagnostic",
    ofDocument "DocumentDiagnosticParams"
      [("identifier", .option .text), ("previousResultId", .option .text)]),
  ("workspace/diagnostic",
    .extended "WorkspaceDiagnosticParams"
      [("identifier", .option .text),
        ("previousResultIds", .list (.record "PreviousResultId"
          [("uri", .uri), ("value", .text)]))]
      [progress, partialResult]),
  ("textDocument/signatureHelp",
    .extended "SignatureHelpParams" [("context", .option signatureContext)] [place, progress]),
  ("textDocument/codeAction",
    ofDocument "CodeActionParams" [("range", range), ("context", codeActionContext)]),
  ("codeAction/resolve", codeAction),
  ("textDocument/documentColor", ofDocument "DocumentColorParams" []),
  ("textDocument/colorPresentation",
    ofDocument "ColorPresentationParams"
      [("color", .record "Color"
        [("red", .real), ("green", .real), ("blue", .real), ("alpha", .real)]),
        ("range", range)]),
  ("textDocument/formatting",
    .extended "DocumentFormattingParams"
      [("textDocument", document), ("options", formatting)] [progress]),
  ("textDocument/rangeFormatting",
    .extended "DocumentRangeFormattingParams"
      [("textDocument", document), ("range", range), ("options", formatting)] [progress]),
  ("textDocument/onTypeFormatting",
    .extended "DocumentOnTypeFormattingParams"
      [("ch", .text), ("options", formatting)] [place]),
  ("textDocument/rename", .extended "RenameParams" [("newName", .text)] [place, progress]),
  ("textDocument/prepareRename", .record "TextDocumentPositionParams" place),
  ("textDocument/linkedEditingRange", ofPlaceAtOnce "LinkedEditingRangeParams"),
  ("workspace/symbol",
    .extended "WorkspaceSymbolParams" [("query", .text)] [partialResult, progress]),
  ("workspaceSymbol/resolve", workspaceSymbol),
  ("workspace/willCreateFiles", files "CreateFilesParams" "FileCreate" ["uri"]),
  ("workspace/willRenameFiles", files "RenameFilesParams" "FileRename" ["oldUri", "newUri"]),
  ("workspace/willDeleteFiles", files "DeleteFilesParams" "FileDelete" ["uri"]),
  ("workspace/executeCommand",
    .extended "ExecuteCommandParams"
      [("command", .text), ("arguments", .usual (.list .any))] [progress])]

def ofRequest? (method : String) : Option Shape :=
  (requests.find? fun (name, _) => name == method).map Prod.snd

end Contracts.Shape

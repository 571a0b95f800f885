import Contracts.Protocol.Document

/-!
The shape of what an editor tells about itself at the start.
-/

namespace Contracts.Shape

/-- Fields that are true or false, or left out. -/
def flags (names : List String) : List (String × Shape) := names.map fun name => (name, option bool)

def flag (name : String) : List (String × Shape) := flags [name]

def texts : Shape := .list .text

def words : Shape := .list .int

def dynamic : Shape := .record "DynamicRegistrationClientCapabilities" (flag "dynamicRegistration")

/-- A record with one list of kinds. -/
def valueSet (name : String) (item : Shape) : Shape :=
  .record name [("valueSet", .option (.list item))]

/-- The tags that an editor knows; older editors only tell whether they know any. -/
def tagSupport : Shape :=
  .usual (.option (.flagOr (.record "TagSupport" [("valueSet", words)])))

def symbolKinds : Shape := valueSet "SymbolKindCapability" .int

def properties (name : String) : Shape := .record name [("properties", texts)]

def markups : Shape := .list (.variant ["plaintext", "markdown"])

def workspaceEdit : Shape :=
  .record "WorkspaceEditClientCapabilities"
    (flag "documentChanges" ++
      [("resourceOperations", .option (.list (.variant ["create", "rename", "delete"]))),
        ("failureHandling", .option
          (.variant ["abort", "transactional", "textOnlyTransactional", "undo"]))] ++
      flag "normalizesLineEndings" ++
      [("changeAnnotationSupport", .option
        (.record "ChangeAnnotationWorkspaceEditClientCapabilities" (flag "groupsOnLabel")))])

def refreshing (name : String) : Shape := .option (.record name (flag "refreshSupport"))

def workspaceAbilities : Shape :=
  .record "WorkspaceClientCapabilities"
    (flag "applyEdit" ++
      [("workspaceEdit", .option workspaceEdit),
        ("didChangeConfiguration", .option dynamic),
        ("didChangeWatchedFiles", .option
          (.record "DidChangeWatchedFilesClientCapabilities"
            (flags ["dynamicRegistration", "relativePatternSupport"]))),
        ("symbol", .option (.record "WorkspaceSymbolClientCapabilities"
          (flag "dynamicRegistration" ++
            [("symbolKind", .option symbolKinds), ("tagSupport", tagSupport),
              ("resolveSupport", .option
                (properties "WorkspaceSymbolResolveSupportCapability"))]))),
        ("executeCommand", .option dynamic)] ++
      flags ["workspaceFolders", "configuration"] ++
      [("semanticTokens", refreshing "SemanticTokensWorkspaceClientCapabilities"),
        ("codeLens", refreshing "CodeLensWorkspaceClientCapabilities"),
        ("fileOperations", .option (.record "WorkspaceFileOperationsClientCapabilities"
          (flags ["dynamicRegistration", "didCreate", "willCreate", "didRename", "willRename",
            "didDelete", "willDelete"]))),
        ("inlineValue", refreshing "InlineValueWorkspaceClientCapabilities"),
        ("inlayHint", refreshing "InlayHintWorkspaceClientCapabilities"),
        ("diagnostic", refreshing "DiagnosticWorkspaceClientCapabilities")])

def completionItemAbilities : Shape :=
  .record "CompletionItemCapability"
    (flags ["snippetSupport", "commitCharactersSupport"] ++
      [("documentationFormat", .option markups)] ++
      flags ["deprecatedSupport", "preselectSupport"] ++
      [("tagSupport", tagSupport)] ++ flag "insertReplaceSupport" ++
      [("resolveSupport", .option (properties "CompletionItemCapabilityResolveSupport")),
        ("insertTextModeSupport", .option
          (.record "InsertTextModeSupport" [("valueSet", words)]))] ++
      flag "labelDetailsSupport")

def completionAbilities : Shape :=
  .record "CompletionClientCapabilities"
    (flag "dynamicRegistration" ++
      [("completionItem", .option completionItemAbilities),
        ("completionItemKind", .option (valueSet "CompletionItemKindCapability" .int))] ++
      flag "contextSupport" ++
      [("insertTextMode", .option .int),
        ("completionList", .option
          (.record "CompletionListCapability" [("itemDefaults", .option texts)]))])

def signatureAbilities : Shape :=
  .record "SignatureHelpClientCapabilities"
    (flag "dynamicRegistration" ++
      [("signatureInformation", .option (.record "SignatureInformationSettings"
        ([("documentationFormat", .option markups),
          ("parameterInformation", .option
            (.record "ParameterInformationSettings" (flag "labelOffsetSupport")))] ++
          flag "activeParameterSupport")))] ++
      flag "contextSupport")

def codeActionAbilities : Shape :=
  let kinds : Shape := .record "CodeActionKindLiteralSupport" [("valueSet", texts)]
  .record "CodeActionClientCapabilities"
    (flag "dynamicRegistration" ++
      [("codeActionLiteralSupport", .option
        (.record "CodeActionLiteralSupport" [("codeActionKind", kinds)]))] ++
      flags ["isPreferredSupport", "disabledSupport", "dataSupport"] ++
      [("resolveSupport", .option (properties "CodeActionCapabilityResolveSupport"))] ++
      flag "honorsChangeAnnotations")

def foldingAbilities : Shape :=
  .record "FoldingRangeClientCapabilities"
    (flag "dynamicRegistration" ++ [("rangeLimit", .option .word)] ++ flag "lineFoldingOnly" ++
      [("foldingRangeKind", .option
        (valueSet "FoldingRangeKindCapability" (.variant ["comment", "imports", "region"]))),
        ("foldingRange", .option (.record "FoldingRangeCapability" (flag "collapsedText")))])

def tokenAbilities : Shape :=
  let delta : Shape := .extended "SemanticTokensFullOptions" (flag "delta") []
  .record "SemanticTokensClientCapabilities"
    (flag "dynamicRegistration" ++
      [("requests", .record "SemanticTokensClientCapabilitiesRequests"
        (flag "range" ++
          [("full", .option (.oneOf "SemanticTokensFullOptions" [.bool, delta]))])),
        ("tokenTypes", texts), ("tokenModifiers", texts), ("formats", texts)] ++
      flags ["overlappingTokenSupport", "multilineTokenSupport", "serverCancelSupport",
        "augmentsSyntaxTokens"])

def documentAbilities : Shape :=
  let goto : Shape := .option (.record "GotoCapability" (flags ["dynamicRegistration",
    "linkSupport"]))
  .record "TextDocumentClientCapabilities"
    [("synchronization", .option (.record "TextDocumentSyncClientCapabilities"
        (flags ["dynamicRegistration", "willSave", "willSaveWaitUntil", "didSave"]))),
      ("completion", .option completionAbilities),
      ("hover", .option (.record "HoverClientCapabilities"
        (flag "dynamicRegistration" ++ [("contentFormat", .option markups)]))),
      ("signatureHelp", .option signatureAbilities),
      ("references", .option dynamic),
      ("documentHighlight", .option dynamic),
      ("documentSymbol", .option (.record "DocumentSymbolClientCapabilities"
        (flag "dynamicRegistration" ++ [("symbolKind", .option symbolKinds)] ++
          flag "hierarchicalDocumentSymbolSupport" ++ [("tagSupport", tagSupport)]))),
      ("formatting", .option dynamic),
      ("rangeFormatting", .option dynamic),
      ("onTypeFormatting", .option dynamic),
      ("declaration", goto),
      ("definition", goto),
      ("typeDefinition", goto),
      ("implementation", goto),
      ("codeAction", .option codeActionAbilities),
      ("codeLens", .option dynamic),
      ("documentLink", .option (.record "DocumentLinkClientCapabilities"
        (flags ["dynamicRegistration", "tooltipSupport"]))),
      ("colorProvider", .option dynamic),
      ("rename", .option (.record "RenameClientCapabilities"
        (flags ["dynamicRegistration", "prepareSupport"] ++
          [("prepareSupportDefaultBehavior", .option .int)] ++ flag "honorsChangeAnnotations"))),
      ("publishDiagnostics", .option (.record "PublishDiagnosticsClientCapabilities"
        (flag "relatedInformation" ++ [("tagSupport", tagSupport)] ++
          flags ["versionSupport", "codeDescriptionSupport", "dataSupport"]))),
      ("foldingRange", .option foldingAbilities),
      ("selectionRange", .option (.record "SelectionRangeClientCapabilities"
        (flag "dynamicRegistration"))),
      ("linkedEditingRange", .option dynamic),
      ("callHierarchy", .option dynamic),
      ("semanticTokens", .option tokenAbilities),
      ("moniker", .option dynamic),
      ("typeHierarchy", .option dynamic),
      ("inlineValue", .option dynamic),
      ("inlayHint", .option (.record "InlayHintClientCapabilities"
        (flag "dynamicRegistration" ++
          [("resolveSupport", .option (properties "InlayHintResolveClientCapabilities"))]))),
      ("diagnostic", .option (.record "DiagnosticClientCapabilities"
        (flags ["dynamicRegistration", "relatedDocumentSupport"])))]

def windowAbilities : Shape :=
  .record "WindowClientCapabilities"
    (flag "workDoneProgress" ++
      [("showMessage", .option (.record "ShowMessageRequestClientCapabilities"
          [("messageActionItem", .option (.record "MessageActionItemCapabilities"
            (flag "additionalPropertiesSupport")))])),
        ("showDocument", .option
          (.record "ShowDocumentClientCapabilities" [("support", .bool)]))])

def generalAbilities : Shape :=
  .record "GeneralClientCapabilities"
    [("regularExpressions", .option (.record "RegularExpressionsClientCapabilities"
        [("engine", .text), ("version", .option .text)])),
      ("markdown", .option (.record "MarkdownClientCapabilities"
        [("parser", .text), ("version", .option .text), ("allowedTags", .option texts)])),
      ("staleRequestSupport", .option (.record "StaleRequestSupportClientCapabilities"
        [("cancel", .bool), ("retryOnContentModified", texts)])),
      ("positionEncodings", .option texts)]

def abilities : Shape :=
  .record "ClientCapabilities"
    [("workspace", .option workspaceAbilities), ("textDocument", .option documentAbilities),
      ("window", .option windowAbilities), ("general", .option generalAbilities),
      ("experimental", .option .any)]

def folder : Shape := .record "WorkspaceFolder" [("uri", .uri), ("name", .text)]

/-- The first message of an editor. -/
def greeting : Shape :=
  .record "InitializeParams"
    [("processId", .option .word), ("rootPath", .option .text),
      ("rootUri", .usual (.option .uri)), ("initializationOptions", .option .any),
      ("capabilities", abilities),
      ("trace", .usual (.option (.variant ["off", "messages", "verbose"]))),
      ("workspaceFolders", .option (.list folder)),
      ("clientInfo", .option
        (.record "ClientInfo" [("name", .text), ("version", .option .text)])),
      ("locale", .option .text)]

end Contracts.Shape

import Keypath.Json.Form

/-!
The form of what a client says about its own abilities.

The server makes no use of it, but a client that gets it wrong is turned away. Almost everything may
be left out.
-/

namespace Keypath.Server.Capabilities

def yesOrNo : Form := .optional .flag

def words : Form := .list .anyText

def codes : Form := .list .signed32

def flags (name : String) (fields : List String) : Form :=
  .optional (.record name (fields.map fun field => (field, yesOrNo)))

def dynamic : Form := flags "DynamicRegistrationClientCapabilities" ["dynamicRegistration"]

def group (name : String) (fields : List (String × Form)) : Form := .optional (.record name fields)

def laterProperties (name : String) : Form := group name [("properties", words)]

/-- A yes stands for an empty list of tags. -/
def tags : Form :=
  .standard .nothing (.optional
    (.switch (.record [("valueSet", .list [])]) (.record "TagSupport" [("valueSet", codes)])))

def symbolKinds : Form := group "SymbolKindCapability" [("valueSet", .optional codes)]

def markups : Form := .optional (.list (.choice ["plaintext", "markdown"]))

/-! The workspace. -/

def edits : Form :=
  group "WorkspaceEditClientCapabilities" [
    ("documentChanges", yesOrNo),
    ("resourceOperations", .optional (.list (.choice ["create", "rename", "delete"]))),
    ("failureHandling",
      .optional (.choice ["abort", "transactional", "textOnlyTransactional", "undo"])),
    ("normalizesLineEndings", yesOrNo),
    ("changeAnnotationSupport",
      flags "ChangeAnnotationWorkspaceEditClientCapabilities" ["groupsOnLabel"])]

def refreshes (name : String) : Form := flags name ["refreshSupport"]

def workspace : Form :=
  group "WorkspaceClientCapabilities" [
    ("applyEdit", yesOrNo),
    ("workspaceEdit", edits),
    ("didChangeConfiguration", dynamic),
    ("didChangeWatchedFiles",
      flags "DidChangeWatchedFilesClientCapabilities"
        ["dynamicRegistration", "relativePatternSupport"]),
    ("symbol", group "WorkspaceSymbolClientCapabilities" [
      ("dynamicRegistration", yesOrNo),
      ("symbolKind", symbolKinds),
      ("tagSupport", tags),
      ("resolveSupport", laterProperties "WorkspaceSymbolResolveSupportCapability")]),
    ("executeCommand", dynamic),
    ("workspaceFolders", yesOrNo),
    ("configuration", yesOrNo),
    ("semanticTokens", refreshes "SemanticTokensWorkspaceClientCapabilities"),
    ("codeLens", refreshes "CodeLensWorkspaceClientCapabilities"),
    ("fileOperations", flags "WorkspaceFileOperationsClientCapabilities"
      ["dynamicRegistration", "didCreate", "willCreate", "didRename", "willRename", "didDelete",
        "willDelete"]),
    ("inlineValue", refreshes "InlineValueWorkspaceClientCapabilities"),
    ("inlayHint", refreshes "InlayHintWorkspaceClientCapabilities"),
    ("diagnostic", refreshes "DiagnosticWorkspaceClientCapabilities")]

/-! Documents. -/

def completion : Form :=
  group "CompletionClientCapabilities" [
    ("dynamicRegistration", yesOrNo),
    ("completionItem", group "CompletionItemCapability" [
      ("snippetSupport", yesOrNo),
      ("commitCharactersSupport", yesOrNo),
      ("documentationFormat", markups),
      ("deprecatedSupport", yesOrNo),
      ("preselectSupport", yesOrNo),
      ("tagSupport", tags),
      ("insertReplaceSupport", yesOrNo),
      ("resolveSupport", laterProperties "CompletionItemCapabilityResolveSupport"),
      ("insertTextModeSupport", group "InsertTextModeSupport" [("valueSet", codes)]),
      ("labelDetailsSupport", yesOrNo)]),
    ("completionItemKind",
      group "CompletionItemKindCapability" [("valueSet", .optional codes)]),
    ("contextSupport", yesOrNo),
    ("insertTextMode", .optional .signed32),
    ("completionList", group "CompletionListCapability" [("itemDefaults", .optional words)])]

def signatureHelp : Form :=
  group "SignatureHelpClientCapabilities" [
    ("dynamicRegistration", yesOrNo),
    ("signatureInformation", group "SignatureInformationSettings" [
      ("documentationFormat", markups),
      ("parameterInformation", flags "ParameterInformationSettings" ["labelOffsetSupport"]),
      ("activeParameterSupport", yesOrNo)]),
    ("contextSupport", yesOrNo)]

def goto : Form := flags "GotoCapability" ["dynamicRegistration", "linkSupport"]

def codeAction : Form :=
  group "CodeActionClientCapabilities" [
    ("dynamicRegistration", yesOrNo),
    ("codeActionLiteralSupport", group "CodeActionLiteralSupport" [
      ("codeActionKind", .record "CodeActionKindLiteralSupport" [("valueSet", words)])]),
    ("isPreferredSupport", yesOrNo),
    ("disabledSupport", yesOrNo),
    ("dataSupport", yesOrNo),
    ("resolveSupport", laterProperties "CodeActionCapabilityResolveSupport"),
    ("honorsChangeAnnotations", yesOrNo)]

def folding : Form :=
  group "FoldingRangeClientCapabilities" [
    ("dynamicRegistration", yesOrNo),
    ("rangeLimit", .optional .unsigned32),
    ("lineFoldingOnly", yesOrNo),
    ("foldingRangeKind", group "FoldingRangeKindCapability" [
      ("valueSet", .optional (.list (.choice ["comment", "imports", "region"])))]),
    ("foldingRange", flags "FoldingRangeCapability" ["collapsedText"])]

/-- Tokens of a whole document, with or without differences to earlier ones. -/
def wholeTokens : Form :=
  .firstOf "SemanticTokensFullOptions" [.flag, .record "Delta" [("delta", yesOrNo)]]

def semanticTokens : Form :=
  group "SemanticTokensClientCapabilities" [
    ("dynamicRegistration", yesOrNo),
    ("requests", .record "SemanticTokensClientCapabilitiesRequests" [
      ("range", yesOrNo),
      ("full", .optional wholeTokens)]),
    ("tokenTypes", words),
    ("tokenModifiers", words),
    ("formats", .list (.choice ["relative"])),
    ("overlappingTokenSupport", yesOrNo),
    ("multilineTokenSupport", yesOrNo),
    ("serverCancelSupport", yesOrNo),
    ("augmentsSyntaxTokens", yesOrNo)]

def documents : Form :=
  group "TextDocumentClientCapabilities" [
    ("synchronization", flags "TextDocumentSyncClientCapabilities"
      ["dynamicRegistration", "willSave", "willSaveWaitUntil", "didSave"]),
    ("completion", completion),
    ("hover", group "HoverClientCapabilities" [
      ("dynamicRegistration", yesOrNo),
      ("contentFormat", markups)]),
    ("signatureHelp", signatureHelp),
    ("references", dynamic),
    ("documentHighlight", dynamic),
    ("documentSymbol", group "DocumentSymbolClientCapabilities" [
      ("dynamicRegistration", yesOrNo),
      ("symbolKind", symbolKinds),
      ("hierarchicalDocumentSymbolSupport", yesOrNo),
      ("tagSupport", tags)]),
    ("formatting", dynamic),
    ("rangeFormatting", dynamic),
    ("onTypeFormatting", dynamic),
    ("declaration", goto),
    ("definition", goto),
    ("typeDefinition", goto),
    ("implementation", goto),
    ("codeAction", codeAction),
    ("codeLens", dynamic),
    ("documentLink",
      flags "DocumentLinkClientCapabilities" ["dynamicRegistration", "tooltipSupport"]),
    ("colorProvider", dynamic),
    ("rename", group "RenameClientCapabilities" [
      ("dynamicRegistration", yesOrNo),
      ("prepareSupport", yesOrNo),
      ("prepareSupportDefaultBehavior", .optional .signed32),
      ("honorsChangeAnnotations", yesOrNo)]),
    ("publishDiagnostics", group "PublishDiagnosticsClientCapabilities" [
      ("relatedInformation", yesOrNo),
      ("tagSupport", tags),
      ("versionSupport", yesOrNo),
      ("codeDescriptionSupport", yesOrNo),
      ("dataSupport", yesOrNo)]),
    ("foldingRange", folding),
    ("selectionRange", flags "SelectionRangeClientCapabilities" ["dynamicRegistration"]),
    ("linkedEditingRange", dynamic),
    ("callHierarchy", dynamic),
    ("semanticTokens", semanticTokens),
    ("moniker", dynamic),
    ("typeHierarchy", dynamic),
    ("inlineValue", dynamic),
    ("inlayHint", group "InlayHintClientCapabilities" [
      ("dynamicRegistration", yesOrNo),
      ("resolveSupport", laterProperties "InlayHintResolveClientCapabilities")]),
    ("diagnostic",
      flags "DiagnosticClientCapabilities" ["dynamicRegistration", "relatedDocumentSupport"])]

/-! The window, and everything else. -/

def window : Form :=
  group "WindowClientCapabilities" [
    ("workDoneProgress", yesOrNo),
    ("showMessage", group "ShowMessageRequestClientCapabilities" [
      ("messageActionItem",
        flags "MessageActionItemCapabilities" ["additionalPropertiesSupport"])]),
    ("showDocument", group "ShowDocumentClientCapabilities" [("support", .flag)])]

def general : Form :=
  group "GeneralClientCapabilities" [
    ("regularExpressions", group "RegularExpressionsClientCapabilities" [
      ("engine", .anyText),
      ("version", .optional .anyText)]),
    ("markdown", group "MarkdownClientCapabilities" [
      ("parser", .anyText),
      ("version", .optional .anyText),
      ("allowedTags", .optional words)]),
    ("staleRequestSupport", group "StaleRequestSupportClientCapabilities" [
      ("cancel", .flag),
      ("retryOnContentModified", words)]),
    ("positionEncodings", .optional words)]

def form : Form :=
  .record "ClientCapabilities" [
    ("workspace", workspace),
    ("textDocument", documents),
    ("window", window),
    ("general", general),
    ("experimental", .optional .anything)]

end Keypath.Server.Capabilities

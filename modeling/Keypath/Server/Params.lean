import Keypath.Server.Capabilities

namespace Keypath.Server.Params

def document : Form := .record "TextDocumentIdentifier" [("uri", .uri)]

def position : Form :=
  .record "Position" [("line", .unsigned32), ("character", .unsigned32)]

def range : Form := .record "Range" [("start", position), ("end", position)]

def place : Form :=
  .record "TextDocumentPositionParams" [("textDocument", document), ("position", position)]

def token : Form := .optional (.firstOf "NumberOrString" [.signed32, .anyText])

def progress : Form := .record "WorkDoneProgressParams" [("workDoneToken", token)]

def partialResults : Form := .record "PartialResultParams" [("partialResultToken", token)]

/-! Requests. -/

def start : Form :=
  .record "InitializeParams" [
    ("processId", .optional .unsigned32),
    ("rootPath", .optional .anyText),
    ("rootUri", .standard .nothing (.optional .uri)),
    ("initializationOptions", .optional .anything),
    ("capabilities", Capabilities.form),
    ("trace", .standard .nothing (.optional (.choice ["off", "messages", "verbose"]))),
    ("workspaceFolders", .optional
      (.list (.record "WorkspaceFolder" [("uri", .uri), ("name", .anyText)]))),
    ("clientInfo", .optional
      (.record "ClientInfo" [("name", .anyText), ("version", .optional .anyText)])),
    ("locale", .optional .anyText)]

def completion : Form :=
  .merged "CompletionParams"
    [("context", .optional (.record "CompletionContext" [
      ("triggerKind", .signed32),
      ("triggerCharacter", .optional .anyText)]))]
    [place, progress, partialResults]

def executeCommand : Form :=
  .merged "ExecuteCommandParams"
    [("command", .anyText), ("arguments", .standard (.list []) (.list .anything))]
    [progress]

/-! Notifications. -/

def started : Form := .record "InitializedParams" []

def didOpen : Form :=
  .record "DidOpenTextDocumentParams" [
    ("textDocument", .record "TextDocumentItem" [
      ("uri", .uri),
      ("languageId", .anyText),
      ("version", .signed32),
      ("text", .anyText)])]

def change : Form :=
  .record "TextDocumentContentChangeEvent" [
    ("range", .optional range),
    ("rangeLength", .optional .unsigned32),
    ("text", .anyText)]

def didChange : Form :=
  .record "DidChangeTextDocumentParams" [
    ("textDocument",
      .record "VersionedTextDocumentIdentifier" [("uri", .uri), ("version", .signed32)]),
    ("contentChanges", .list change)]

def didClose : Form := .record "DidCloseTextDocumentParams" [("textDocument", document)]

end Keypath.Server.Params

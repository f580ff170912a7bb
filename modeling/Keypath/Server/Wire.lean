import Keypath.Server.State

namespace Keypath

namespace Json

def count (number : Nat) : Json := .number (.integer number)

def texts (items : List String) : Json := .array (items.map string)

def orNull : Option String → Json
  | some text => string text
  | none => null

def fieldOf (name : String) (value : Option Json) : List (String × Json) :=
  match value with
  | some json => [(name, json)]
  | none => []

end Json

mutual

def Entry.toJson : Entry → Json
  | ⟨kind, elementKind, children, detail⟩ =>
      .object ([("kind", .orNull (kind.map TypeKind.name))] ++
        Json.fieldOf "elementKind" (elementKind.map fun kind => .string kind.name) ++
        childrenToJson children ++
        Json.fieldOf "detail" (detail.map .string))

def Entry.childrenToJson : Option (Table String Entry) → List (String × Json)
  | none => []
  | some ⟨entries⟩ => [("children", .object (entriesToJson entries))]

def Entry.entriesToJson : List (String × Entry) → List (String × Json)
  | [] => []
  | (name, entry) :: rest => (name, entry.toJson) :: entriesToJson rest

end

def Schema.toJson (schema : Schema) : Json := .object (Entry.entriesToJson schema.entries)

def Suggestion.toJson (suggestion : Suggestion) : Json :=
  .object [("path", .string suggestion.path), ("isLeaf", .bool suggestion.isLeaf),
    ("kind", .orNull (suggestion.kind.map TypeKind.name)), ("detail", .orNull suggestion.detail)]

def ItemKind.code : ItemKind → Nat
  | field => 5
  | container => 9

def CompletionItem.toJson (item : CompletionItem) : Json :=
  .object ([("label", .string item.label), ("kind", .count item.kind.code),
    ("sortText", .string item.sortText)] ++ Json.fieldOf "detail" (item.detail.map .string))

namespace Server

/-- Documents are sent whole, and completion is asked for behind a dot or a quote. -/
def capabilities : Json :=
  .object [
    ("capabilities", .object [
      ("textDocumentSync", .count 1),
      ("completionProvider", .object [("triggerCharacters", .texts [".", "'"])]),
      ("executeCommandProvider", .object [("commands", .texts [dumpCommand])])]),
    ("serverInfo", .object [("name", .string "config-lsp"), ("version", .string "0.1.0")])]

def Result.toJson : Result → Json
  | .capabilities => Server.capabilities
  | .nothing => .null
  | .items completions => .array (completions.map CompletionItem.toJson)
  | .dump uri schemaFile schema =>
      .object [("uri", .string uri.render), ("schemaFile", .string schemaFile.text),
        ("schema", schema.toJson),
        ("suggestions", .array ((schema.suggestions "").map Suggestion.toJson))]
  | .failure message => .object [("error", .string message)]

def noticeToJson (message : String) : Json :=
  .object [("method", .string "window/logMessage"),
    ("params", .object [("type", .count 3), ("message", .string message)])]

end Server

end Keypath
